import Mathlib
import KoreWebsocket.Pgsql.Query

/-!
# What the owner of a query sees

A query that is owned by a request and one whose callback is `db_state_change` should see the same
states: one for each result that has a meaning, in the server's order, then `DONE` and `COMPLETE`.
`future` is what the owner has yet to see. An event moves a part of it to what has been seen (`seen`), or
moves nothing, with one exception: `kore_pgsql_handle` does not ask whether the request that it woke up has
run, so a socket that is readable again overwrites the state that the request has yet to see. A request
sees everything just if this never happens (`results_delivered_iff`); a callback always does.

The states the owner sees do not last: when the handler has returned, an error has been overwritten
by `DONE` or `COMPLETE`, whatever the callback does (`error_state_never_survives`).
-/

namespace KoreWebsocket.Pgsql

open Machine Checked

/-- `db_state_change`: continue on `DONE`, clean up on `COMPLETE`. -/
def dbStateChange : List PgState → List Act
  | .done :: _ => [.continue]
  | .complete :: _ => [.cleanup]
  | _ => []

/-- The state a result is reported with, if it is. -/
def ResultStatus.visible : ResultStatus → Option PgState
  | .commandOk => some .commandok
  | .tuplesOk | .singleTuple => some .result
  | .emptyQuery | .badResponse | .fatalError => some .error
  | .copyOut | .copyIn | .nonfatalError | .copyBoth => none

/-- `PGRES_FATAL_ERROR`, `PGRES_BAD_RESPONSE` and `PGRES_EMPTY_QUERY`. -/
def ResultStatus.isError : ResultStatus → Bool
  | .emptyQuery | .badResponse | .fatalError => true
  | _ => false

/-- The states the results are reported with. -/
def visible (rs : List PGresult) : List PgState := rs.filterMap (·.status.visible)

/-- What the owner of a query should see. -/
def expected (rs : List PGresult) : List PgState := visible rs ++ [.done, .complete]

/-- What it has seen, apart from `WAIT`. -/
def seen (q : Query) : List PgState := (q.observed.filter (· != .wait)).reverse

/-- `pgsql_schedule`. -/
def pgsqlSchedule (b : Binding) (n : Nat) (q : Query) : Except Stop Query :=
  callCb b n (({ q with state := .wait } : Query).setAwake b false)

/-- A query that has just been sent and scheduled. -/
def start (b : Binding) (rs : List PGresult) : Except Stop Query :=
  pgsqlSchedule b (budget { server := rs }) { server := rs }

/-- The answers an event brings. -/
def Ev.answers : Ev → List Answer
  | .ready as => as
  | .resume as => as

/-- `PQconsumeInput` succeeds throughout the event. -/
def Ev.Consumes (e : Ev) : Prop := ∀ a ∈ e.answers, a.consumed = true

/-- The socket was readable, but libpq is still busy with the result. -/
def Ev.idle : Ev → Bool
  | .ready (a :: _) => a.busy
  | _ => false

/-- The socket is not readable while a request that was woken up has a state to see that reading
overwrites. `DONE` is not overwritten: there are no results left. -/
def Heeds (q : Query) : Ev → Prop
  | .ready _ => q.awake = true → q.state = .done
  | .resume _ => True

instance (q : Query) : (e : Ev) → Decidable (Heeds q e)
  | .ready _ => inferInstanceAs (Decidable (_ → _))
  | .resume _ => isTrue trivial

/-- The socket is not readable while a request that was woken up has not run. -/
def Waits (q : Query) : Ev → Prop
  | .ready _ => q.awake = false
  | .resume _ => True

/-! ## Reading the results -/

section
variable {b : Binding} {n : Nat} {q q' : Query}

@[simp] theorem seen_cons_wait : seen { q with observed := .wait :: q.observed } = seen q := by
  simp [seen]

/-- `db_state_change` leaves the result loop alone. -/
theorem callCb_nothing (hs : q.state ≠ .done ∧ q.state ≠ .complete) :
    callCb (.callback dbStateChange) (n + 1) q =
      .ok { q with observed := q.state :: q.observed } := by
  have hacts : dbStateChange (q.state :: q.observed) = [] := by
    cases h : q.state <;> simp_all [dbStateChange]
  rw [callCb]
  dsimp only
  rw [hacts]
  rfl

/-- One turn of the result loop with the callback `db_state_change`: the result is reported, if it
has a meaning, and the loop goes on. -/
theorem resultLoop_callback_cons {r : PGresult} {rest : List PGresult} (hc : q.conn = true)
    (hs : q.server = r :: rest) :
    ∃ q₁, resultLoop (.callback dbStateChange) (n + 2) q =
        resultLoop (.callback dbStateChange) (n + 1) q₁ ∧
      q₁.conn = true ∧ q₁.server = rest ∧ q₁.notifies = q.notifies ∧ q₁.awake = q.awake ∧
      q₁.observed = r.status.visible.toList ++ q.observed := by
  rw [resultLoop, if_neg (by simp [hc])]
  simp only [hs]
  cases hst : r.status <;> simp only [Query.setError] <;>
    (try rw [callCb_nothing (by simp)]) <;>
    refine ⟨_, rfl, ?_⟩ <;> simp [ResultStatus.visible, Query.pqClear, hc]

/-- The result loop with the callback `db_state_change` reports every result and ends in `DONE`. -/
theorem resultLoop_callback (hc : q.conn = true) (hn : q.server.length < n) :
    ∃ q', resultLoop (.callback dbStateChange) n q = .ok q' ∧ q'.state = .done ∧
      q'.conn = true ∧ q'.server = [] ∧ q'.notifies = q.notifies ∧ q'.awake = q.awake ∧
      q'.observed = (visible q.server).reverse ++ q.observed := by
  induction hs : q.server generalizing q n with
  | nil =>
      obtain ⟨m, rfl⟩ : ∃ m, n = m + 1 := ⟨n - 1, by omega⟩
      rw [resultLoop, if_neg (by simp [hc])]
      simp [hs, afterLoop, visible, hc]
  | cons r rest ih =>
      rw [hs, List.length_cons] at hn
      obtain ⟨m, rfl⟩ : ∃ m, n = m + 2 := ⟨n - 2, by omega⟩
      obtain ⟨q₁, h1, hc1, hs1, hn1, ha1, ho1⟩ := resultLoop_callback_cons (n := m) hc hs
      obtain ⟨q', h2, h3, h4, h5, h6, h7, h8⟩ := ih (n := m + 1) hc1 (by rw [hs1]; omega) hs1
      refine ⟨q', h1.trans h2, h3, h4, h5, h6.trans hn1, h7.trans ha1, ?_⟩
      rw [h8, ho1]
      cases hv : r.status.visible <;> simp [visible, hv]

/-- `DONE` and `COMPLETE`, one after the other, with the callback `db_state_change`: the connection
is released and the query cleaned up. -/
theorem callCb_done (hc : q.conn = true) (hd : q.state = .done) :
    ∃ q', callCb (.callback dbStateChange) (n + 5) q = .ok q' ∧ q'.conn = false ∧
      q'.notifies = q.notifies ∧ q'.awake = q.awake ∧
      q'.observed = .complete :: .done :: q.observed := by
  simp [callCb, korePgsqlContinue, pgsqlConnRelease, korePgsqlCleanup, dbStateChange, hd, hc,
    Query.pqClear, Query.setAwake, Binding.isRequest]

/-- The answer `kore_pgsql_handle` takes is a success of `PQconsumeInput`. -/
theorem answer_consumed {as : List Answer} (ha : ∀ a ∈ as, a.consumed = true) :
    (as.headD {}).consumed = true := by
  cases as with
  | nil => rfl
  | cons a as => exact ha a (.head _)

/-- `kore_pgsql_handle` with the callback `db_state_change`: nothing but a `WAIT` when libpq is
busy, everything otherwise. -/
theorem handle_callback (hc : q.conn = true) (hno : q.notifies = [])
    (ha : ∀ a ∈ q.answers, a.consumed = true) (hn : q.server.length + 9 ≤ n) :
    ∃ q', korePgsqlHandle (.callback dbStateChange) n q = .ok q' ∧ q'.notifies = [] ∧
      q'.awake = q.awake ∧
      if (q.answers.headD {}).busy then q'.conn = true ∧ q'.server = q.server ∧
        q'.observed = .wait :: q.observed
      else q'.conn = false ∧ q'.observed = .complete :: .done :: (visible q.server).reverse ++
        q.observed := by
  obtain ⟨m, rfl⟩ : ∃ m, n = m + 9 := ⟨n - 9, by omega⟩
  rw [korePgsqlHandle, if_neg (by simp [hc])]
  simp only [Query.answer, answer_consumed ha, if_true]
  cases hb : (q.answers.headD {}).busy with
  | true =>
      rw [pgsqlReadResult, if_neg (by simp [hc]), if_pos rfl]
      rw [ok_bind]
      rw [callCb_nothing (by simp [Query.setAwake])]
      simp [Query.setAwake, Binding.isRequest, hc, hno]
  | false =>
      rw [pgsqlReadResult, if_neg (by simp [hc]), if_neg (by simp), notifyLoop,
        if_neg (by simp [hc])]
      simp only [hno]
      obtain ⟨q₁, h1, h2, h3, h4, h5, h6, h7⟩ := resultLoop_callback (n := m + 6)
        (q := { q with answers := q.answers.tail, notifies := [] }) hc (by simp; omega)
      rw [h1, ok_bind]
      obtain ⟨q', g1, g2, g3, g4, g5⟩ := callCb_done (n := m + 3)
        (q := q₁.setAwake (.callback dbStateChange) (q₁.state != .wait)) h3 h2
      refine ⟨q', g1, g3.trans h5, g4.trans h6, ?_⟩
      simp only [Bool.false_eq_true, if_false]
      refine ⟨g2, g5.trans ?_⟩
      rw [show (q₁.setAwake (.callback dbStateChange) (q₁.state != .wait)).observed = q₁.observed
        from rfl, h7]
      rfl

/-- What a woken request has yet to see in this state, with these results to come. -/
def due (s : PgState) (rs : List PGresult) : List PgState :=
  if s = .done then [.done, .complete] else s :: expected rs

/-- The states a request is woken up in while it has the connection. -/
def Woken (s : PgState) : Prop := s = .done ∨ s = .commandok ∨ s = .result ∨ s = .error

/-- The result loop of a request's query stops at the first result that has a meaning, or in
`DONE`. -/
theorem resultLoop_request (hc : q.conn = true) (hn : q.server.length + 1 < n) :
    ∃ q', resultLoop .request n q = .ok q' ∧ Woken q'.state ∧ q'.conn = true ∧
      q'.notifies = q.notifies ∧ q'.observed = q.observed ∧
      expected q.server = due q'.state q'.server ∧ (q'.state = .done → q'.server = []) := by
  induction hs : q.server generalizing q n with
  | nil =>
      obtain ⟨m, rfl⟩ : ∃ m, n = m + 1 := ⟨n - 1, by omega⟩
      rw [resultLoop, if_neg (by simp [hc])]
      simp [hs, afterLoop, hc, Woken, due, expected, visible]
  | cons r rest ih =>
      rw [hs, List.length_cons] at hn
      obtain ⟨m, rfl⟩ : ∃ m, n = m + 2 := ⟨n - 2, by omega⟩
      rw [resultLoop, if_neg (by simp [hc])]
      simp only [hs]
      have hskip : r.status.visible = none → expected (r :: rest) = expected rest := fun hv => by
        simp [expected, visible, hv]
      have hstop : ∀ s, r.status.visible = some s → expected (r :: rest) = s :: expected rest :=
        fun s hv => by simp [expected, visible, hv]
      cases hst : r.status with
      | copyOut | copyIn | nonfatalError | copyBoth =>
          obtain ⟨q', h1, h2, h3, h4, h5, h6, h7⟩ :=
            ih (n := m + 1) (q := { q with server := rest, result := some r }) hc
              (by simp; omega) rfl
          exact ⟨q', h1, h2, h3, h4, h5, (hskip (by rw [hst]; rfl)).trans h6, h7⟩
      | commandOk | tuplesOk | singleTuple =>
          refine ⟨_, rfl, ?_, hc, rfl, rfl, hstop _ (by rw [hst]; rfl), nofun⟩
          simp [Woken]
      | emptyQuery | badResponse | fatalError =>
          refine ⟨_, rfl, ?_, hc, rfl, rfl, hstop _ (by rw [hst]; rfl), nofun⟩
          simp [Woken, Query.setError]

/-- `kore_pgsql_handle` for a request: back to sleep when libpq is busy, woken up otherwise. -/
theorem handle_request (hc : q.conn = true) (hno : q.notifies = [])
    (ha : ∀ a ∈ q.answers, a.consumed = true) (hn : q.server.length + 9 ≤ n) :
    ∃ q', korePgsqlHandle .request n q = .ok q' ∧ q'.notifies = [] ∧ q'.observed = q.observed ∧
      q'.conn = true ∧
      if (q.answers.headD {}).busy then q'.awake = false ∧ q'.server = q.server
      else q'.awake = true ∧ Woken q'.state ∧ expected q.server = due q'.state q'.server ∧
        (q'.state = .done → q'.server = []) := by
  obtain ⟨m, rfl⟩ : ∃ m, n = m + 9 := ⟨n - 9, by omega⟩
  rw [korePgsqlHandle, if_neg (by simp [hc])]
  simp only [Query.answer, answer_consumed ha, if_true]
  cases hb : (q.answers.headD {}).busy with
  | true =>
      rw [pgsqlReadResult, if_neg (by simp [hc]), if_pos rfl, ok_bind, callCb]
      simp [Query.setAwake, Binding.isRequest, hc, hno]
  | false =>
      rw [pgsqlReadResult, if_neg (by simp [hc]), if_neg (by simp), notifyLoop,
        if_neg (by simp [hc])]
      simp only [hno]
      obtain ⟨q₁, h1, h2, h3, h4, h5, h6, h7⟩ := resultLoop_request (n := m + 6)
        (q := { q with answers := q.answers.tail, notifies := [] }) hc (by simp; omega)
      rw [h1, ok_bind, callCb]
      refine ⟨_, rfl, h4, h5, h3, ?_⟩
      have hne : q₁.state ≠ .wait := by rintro he; rw [he] at h2; simp [Woken] at h2
      simp only [Bool.false_eq_true, if_false]
      refine ⟨?_, h2, h6, h7⟩
      simp [Query.setAwake, Binding.isRequest, hne]

/-! ## The events -/

/-- What the owner has yet to see. -/
def future (q : Query) : List PgState :=
  if q.conn then if q.awake then due q.state q.server else expected q.server
  else if q.awake then [.complete] else []

/-- The invariant of the two disciplines between events. -/
structure Inv (b : Binding) (q : Query) : Prop where
  notifies : q.notifies = []
  awake_request : q.awake = true → b = .request
  awake_conn : q.awake = true → q.conn = true → Woken q.state
  awake_done : q.awake = true → q.conn = true → q.state = .done → q.server = []
  awake_released : q.awake = true → q.conn = false → q.state = .complete

/-- The invariant of a query whose owner is not woken up. -/
theorem Inv.of_asleep (hnotifies : q.notifies = []) (hawake : q.awake = false) : Inv b q where
  notifies := hnotifies
  awake_request haw := absurd (hawake.symm.trans haw) nofun
  awake_conn haw := absurd (hawake.symm.trans haw) nofun
  awake_done haw := absurd (hawake.symm.trans haw) nofun
  awake_released haw := absurd (hawake.symm.trans haw) nofun

/-- The invariant of a request that is woken up while it has the connection. -/
theorem Inv.of_woken (hnotifies : q.notifies = []) (hc : q.conn = true) (hwoken : Woken q.state)
    (hdone : q.state = .done → q.server = []) : Inv .request q where
  notifies := hnotifies
  awake_request _ := rfl
  awake_conn _ _ := hwoken
  awake_done _ _ := hdone
  awake_released _ hc' := absurd (hc.symm.trans hc') nofun

/-- A readable socket of a request keeps the invariant and all that is to come. The request is woken up
unless libpq is busy. -/
theorem handle_request_inv (hc : q.conn = true) (hno : q.notifies = [])
    (ha : ∀ a ∈ q.answers, a.consumed = true) (hn : q.server.length + 9 ≤ n) :
    ∃ q', korePgsqlHandle .request n q = .ok q' ∧ Inv .request q' ∧ q'.observed = q.observed ∧
      future q' = expected q.server ∧ q'.awake = !(q.answers.headD {}).busy := by
  obtain ⟨q', h1, h2, h3, h4, h5⟩ := handle_request hc hno ha hn
  refine ⟨q', h1, ?_⟩
  cases hbusy : (q.answers.headD {}).busy with
  | true =>
      rw [hbusy, if_pos rfl] at h5
      exact ⟨.of_asleep h2 h5.1, h3, by simp [future, h4, h5.1, h5.2], h5.1⟩
  | false =>
      rw [hbusy, if_neg Bool.false_ne_true] at h5
      obtain ⟨h6, h7, h8, h9⟩ := h5
      exact ⟨.of_woken h2 h4 h7 h9, h3, by simp [future, h4, h6, h8], h6⟩

/-- A bound on the events still to come, busy ones apart. -/
def workLeft (q : Query) : Nat := 2 * (future q).length + if q.awake then 0 else 1

/-- The two disciplines. -/
def Disciplined (b : Binding) : Prop := b = .request ∨ b = .callback dbStateChange

/-- The states of the results are never `WAIT`. -/
theorem ne_wait_of_visible {rs : List PGresult} {s : PgState} (hs : s ∈ visible rs) : s ≠ .wait := by
  obtain ⟨r, -, hr⟩ := List.mem_filterMap.1 hs
  rintro rfl
  cases hst : r.status <;> simp [hst, ResultStatus.visible] at hr

/-- What the callback sees when everything is processed in one event. -/
theorem seen_processed {q' : Query} {rs : List PGresult}
    (h : q'.observed = .complete :: .done :: (visible rs).reverse ++ q.observed) :
    seen q' = seen q ++ expected rs := by
  have hkept : (visible rs).reverse.filter (· != .wait) = (visible rs).reverse :=
    List.filter_eq_self.2 fun s hs => by simpa using ne_wait_of_visible (List.mem_reverse.1 hs)
  rw [seen, h, seen]
  simp [List.filter_append, hkept, expected]

/-- **A readable socket.** The event returns and keeps the invariant, and what the owner will see then is
what the results that the server has are reported with: a state it has yet to see is not among them. -/
theorem Inv.ready {as : List Answer} (hb : Disciplined b) (h : Inv b q)
    (hen : enabled b q (.ready as) = true) (ha : ∀ a ∈ as, a.consumed = true) :
    ∃ q', onEvent b q (.ready as) = .ok q' ∧ Inv b q' ∧
      seen q' ++ future q' = seen q ++ expected q.server ∧
      (q.awake = false →
        if (Ev.ready as).idle then workLeft q' = workLeft q else workLeft q' < workLeft q) := by
  have hc : q.conn = true := hen
  have hidle : (Ev.ready as).idle = (as.headD {}).busy := by cases as <;> rfl
  have hfut : q.awake = false → future q = expected q.server := fun haw => by simp [future, hc, haw]
  rw [onEvent, onReady, hidle]
  rcases hb with rfl | rfl
  · obtain ⟨q', h1, hinv, h3, hf, hawake⟩ := handle_request_inv (q := { q with answers := as }) hc h.notifies
      ha (n := budget q) (by simp [budget]; omega)
    have hseen : seen q' = seen q := by rw [seen, h3]; rfl
    refine ⟨q', h1, hinv, by rw [hf, hseen], fun haw => ?_⟩
    rw [workLeft, workLeft, hf, hfut haw, hawake, haw]
    cases (as.headD {}).busy <;> simp
  · obtain ⟨q', h1, h2, h3, h4⟩ := handle_callback (q := { q with answers := as }) hc h.notifies
      ha (n := budget q) (by simp [budget]; omega)
    have haw : q.awake = false := Bool.eq_false_iff.2 fun haw => nomatch h.awake_request haw
    have haw' : q'.awake = false := h3.trans haw
    refine ⟨q', h1, .of_asleep h2 haw', ?_⟩
    dsimp only at h4
    cases hbu : (as.headD {}).busy with
    | true =>
        rw [hbu, if_pos rfl] at h4
        obtain ⟨h5, h6, h7⟩ := h4
        have hf : future q' = expected q.server := by simp [future, h5, haw', h6]
        refine ⟨by rw [hf]; simp [seen, h7], fun _ => ?_⟩
        rw [if_pos rfl, workLeft, workLeft, hf, hfut haw, haw', haw]
    | false =>
        rw [hbu, if_neg Bool.false_ne_true] at h4
        obtain ⟨h5, h6⟩ := h4
        have hf : future q' = [] := by simp [future, h5, haw']
        refine ⟨?_, fun _ => by simp [workLeft, hf, haw', haw, hfut, expected]⟩
        rw [hf, List.append_nil]
        exact seen_processed h6

/-- What the owner has yet to see is what the results are reported with, unless it is woken up for a
state that is not `DONE`. -/
theorem Inv.future_eq (h : Inv b q) (hc : q.conn = true) (hdone : q.awake = true → q.state = .done) :
    future q = expected q.server := by
  cases haw : q.awake with
  | false => simp [future, hc, haw]
  | true =>
      have hstate := hdone haw
      rw [h.awake_done haw hc hstate]
      simp [future, hc, haw, due, hstate, expected, visible]

/-- `kore_pgsql_continue` on a reported result goes back to `kore_pgsql_handle`. -/
theorem continue_handle (hs : q.state = .commandok ∨ q.state = .result ∨ q.state = .error) :
    korePgsqlContinue b (n + 1) q =
      korePgsqlHandle b n { q.pqClear with error := none, result := none } := by
  rcases hs with he | he | he <;> simp [korePgsqlContinue, Query.pqClear, he]

/-- `kore_pgsql_continue` of a request on `DONE` releases the connection and wakes the request. -/
theorem continue_done_request (hd : q.state = .done) (hc : q.conn = true) :
    ∃ q', korePgsqlContinue .request (n + 3) q = .ok q' ∧ q'.conn = false ∧ q'.awake = true ∧
      q'.state = .complete ∧ q'.observed = q.observed ∧ q'.notifies = q.notifies := by
  simp [korePgsqlContinue, pgsqlConnRelease, callCb, hd, hc, Query.pqClear, Query.setAwake,
    Binding.isRequest]

/-- A woken request runs: it sees the state it was woken up in, and the next one is prepared. -/
theorem Inv.resume {as : List Answer} (h : Inv b q) (hen : enabled b q (.resume as) = true)
    (ha : ∀ a ∈ as, a.consumed = true) :
    ∃ q', onEvent b q (.resume as) = .ok q' ∧ Inv b q' ∧
      seen q' ++ future q' = seen q ++ future q ∧ workLeft q' < workLeft q := by
  have hen : b.isRequest = true ∧ q.awake = true := by simpa [enabled] using hen
  have haw := hen.2
  obtain rfl := h.awake_request haw
  rw [onEvent, onResume]
  have hseen : ∀ q'' : Query, q.state ≠ .wait → q''.observed = q.state :: q.observed →
      seen q'' = seen q ++ [q.state] := fun q'' hs ho => by simp [seen, ho, hs]
  by_cases hc : q.conn = true
  · have hwk := h.awake_conn haw hc
    have hnc : q.state ≠ .complete := by rintro he; simp [Woken, he] at hwk
    have hnw : q.state ≠ .wait := by rintro he; simp [Woken, he] at hwk
    have hfut : future q = due q.state q.server := by simp [future, hc, haw]
    rw [if_neg (by exact hnc)]
    obtain ⟨m, hm⟩ : ∃ m, budget q = (m + q.server.length + 10) + 3 :=
      ⟨budget q - 13 - q.server.length, by simp [budget]; omega⟩
    rw [show budget { q with observed := q.state :: q.observed, answers := as } =
      (m + q.server.length + 10) + 3 from hm]
    by_cases hd : q.state = .done
    · obtain ⟨q', h1, h2, h3, h4, h5, h6⟩ := continue_done_request
        (q := { q with observed := q.state :: q.observed, answers := as }) hd hc
        (n := m + q.server.length + 10)
      have hinv : Inv .request q' :=
        { notifies := h6.trans h.notifies
          awake_request := fun _ => rfl
          awake_conn := fun _ hc' => absurd (h2.symm.trans hc') nofun
          awake_done := fun _ hc' => absurd (h2.symm.trans hc') nofun
          awake_released := fun _ _ => h4 }
      refine ⟨q', h1, hinv, ?_, ?_⟩
      · rw [hseen _ hnw h5, hfut]
        simp [future, h2, h3, due, hd]
      · rw [workLeft, workLeft, hfut]
        simp [future, h2, h3, haw, due, hd]
    · have hst : q.state = .commandok ∨ q.state = .result ∨ q.state = .error :=
        hwk.resolve_left hd
      obtain ⟨q', h1, hinv, h3, hf, hawake⟩ := handle_request_inv
        (q := { ({ q with observed := q.state :: q.observed, answers := as } : Query).pqClear with
          error := none, result := none }) hc h.notifies ha (n := m + q.server.length + 12)
        (by simp [Query.pqClear]; omega)
      have hdue : due q.state q.server = q.state :: expected q.server := if_neg hd
      have hf : future q' = expected q.server := hf
      have hawake : q'.awake = !(as.headD {}).busy := hawake
      refine ⟨q', (continue_handle (q := { q with observed := q.state :: q.observed,
                                                  answers := as }) hst).trans h1, hinv, ?_, ?_⟩
      · rw [hseen q' hnw h3, hfut, hf, hdue, List.append_assoc, List.singleton_append]
      · rw [workLeft, workLeft, hfut, hf, hdue, haw, hawake, List.length_cons]
        cases (as.headD {}).busy
        · simp
        · simp; omega
  · -- the connection has been released: the request sees `COMPLETE`
    have hc : q.conn = false := by simpa using hc
    have hst := h.awake_released haw hc
    have hfut : future q = [.complete] := by simp [future, hc, haw]
    refine ⟨_, if_pos hst, .of_asleep h.notifies rfl, ?_, ?_⟩
    · rw [hseen _ (by simp [hst]) rfl, hfut]
      simp [future, hc, hst]
    · rw [workLeft, workLeft, hfut]
      simp [future, hc, haw]

/-- **What a readable socket does to what the owner sees.** Nothing, or it loses the state that a woken
request has yet to see. -/
theorem Inv.expected_eq (h : Inv b q) (hc : q.conn = true) (as : List Answer) :
    (Heeds q (.ready as) → expected q.server = future q) ∧
      (¬ Heeds q (.ready as) → (expected q.server).length < (future q).length) := by
  refine ⟨fun hheeds => (h.future_eq hc hheeds).symm, fun hlost => ?_⟩
  obtain ⟨haw, hd⟩ := Classical.not_imp.1 hlost
  simp [future, hc, haw, due, hd]

/-- **The step lemma.** Every enabled event returns and keeps the invariant. If it heeds a woken request it
moves nothing but what it shows from `future` to `seen`, and otherwise it loses a state. If it waits for
the request, it is a busy answer or work done. -/
theorem Inv.event {e : Ev} (hb : Disciplined b) (h : Inv b q) (hen : enabled b q e = true)
    (ha : e.Consumes) :
    ∃ q', onEvent b q e = .ok q' ∧ Inv b q' ∧
      (Heeds q e → seen q' ++ future q' = seen q ++ future q) ∧
      (¬ Heeds q e → (seen q' ++ future q').length < (seen q ++ future q).length) ∧
      (Waits q e → workLeft q' + (if e.idle then 0 else 1) ≤ workLeft q) := by
  cases e with
  | ready as =>
      obtain ⟨q', h1, h2, h3, h4⟩ := h.ready hb hen ha
      obtain ⟨hkept, hlost⟩ := h.expected_eq hen as
      refine ⟨q', h1, h2, fun hheeds => ?_, fun hnot => ?_, fun hwaits => ?_⟩
      · rw [h3, hkept hheeds]
      · rw [h3, List.length_append, List.length_append]
        exact Nat.add_lt_add_left (hlost hnot) _
      · have hwork := h4 hwaits
        cases hi : (Ev.ready as).idle with
        | true => rw [hi, if_pos rfl] at hwork; simp [hwork]
        | false => rw [hi, if_neg (by simp)] at hwork; exact hwork
  | resume as =>
      obtain ⟨q', h1, h2, h3, h4⟩ := h.resume hen ha
      exact ⟨q', h1, h2, fun _ => h3, fun hnot => absurd trivial hnot, fun _ => h4⟩

/-- The step lemma, for a step that was made. -/
theorem Inv.of_step {e : Ev} (hb : Disciplined b) (h : Inv b q) (ha : e.Consumes)
    (hstep : step b q e = some q') :
    Inv b q' ∧ (Heeds q e → seen q' ++ future q' = seen q ++ future q) ∧
      (¬ Heeds q e → (seen q' ++ future q').length < (seen q ++ future q).length) ∧
      (Waits q e → workLeft q' + (if e.idle then 0 else 1) ≤ workLeft q) := by
  simp only [Pgsql.step, Option.ite_none_right_eq_some] at hstep
  obtain ⟨hen, hstep⟩ := hstep
  obtain ⟨q₂, hevent, hspec⟩ := h.event hb hen ha
  rw [hevent] at hstep
  cases hstep
  exact hspec

/-- The run lemma: the invariant, and no state is seen that was not to be seen. -/
theorem Inv.run {evs : List Ev} (hb : Disciplined b) (h : Inv b q) (ha : ∀ e ∈ evs, e.Consumes)
    (hrun : exec (step b) q evs = some q') :
    Inv b q' ∧ (seen q' ++ future q').length ≤ (seen q ++ future q).length := by
  induction evs generalizing q with
  | nil => cases hrun; exact ⟨h, Nat.le_refl _⟩
  | cons e es ih =>
      obtain ⟨q₁, h1, h2⟩ := exec_cons.1 hrun
      obtain ⟨hinv, hkept, hlost, -⟩ := h.of_step hb (ha e (.head _)) h1
      obtain ⟨hinv', hle⟩ := ih hinv (fun e' he' => ha e' (.tail _ he')) h2
      refine ⟨hinv', hle.trans ?_⟩
      by_cases hheeds : Heeds q e
      · rw [hkept hheeds]
      · exact Nat.le_of_lt (hlost hheeds)

/-- A run that heeds the woken request moves nothing but what it shows. -/
theorem Inv.run_heeds {evs : List Ev} (hb : Disciplined b) (h : Inv b q) (ha : ∀ e ∈ evs, e.Consumes)
    (hheeds : Meets (step b) Heeds q evs) (hrun : exec (step b) q evs = some q') :
    seen q' ++ future q' = seen q ++ future q := by
  induction evs generalizing q with
  | nil => cases hrun; rfl
  | cons e es ih =>
      obtain ⟨q₁, h1, h2⟩ := exec_cons.1 hrun
      obtain ⟨hinv, hkept, -⟩ := h.of_step hb (ha e (.head _)) h1
      exact (ih hinv (fun e' he' => ha e' (.tail _ he')) (hheeds.2 q₁ h1) h2).trans
        (hkept hheeds.1)

/-- A run that loses no state heeds the woken request: what one step loses is not seen later. -/
theorem Inv.run_meets {evs : List Ev} (hb : Disciplined b) (h : Inv b q) (ha : ∀ e ∈ evs, e.Consumes)
    (hrun : exec (step b) q evs = some q')
    (hlength : (seen q ++ future q).length ≤ (seen q' ++ future q').length) :
    Meets (step b) Heeds q evs := by
  induction evs generalizing q with
  | nil => trivial
  | cons e es ih =>
      obtain ⟨q₁, h1, h2⟩ := exec_cons.1 hrun
      obtain ⟨hinv, hkept, hlost, -⟩ := h.of_step hb (ha e (.head _)) h1
      have ha' : ∀ e' ∈ es, e'.Consumes := fun e' he' => ha e' (.tail _ he')
      have hheeds : Heeds q e := by
        by_contra hnot
        have hless := hlost hnot
        have hle := (hinv.run hb ha' h2).2
        omega
      exact Meets.cons hheeds h1 (ih hinv ha' h2 (by rw [hkept hheeds]; exact hlength))

/-- In a run that waits for the woken request, all but a bounded number of the events are busy answers. -/
theorem Inv.run_waits {evs : List Ev} (hb : Disciplined b) (h : Inv b q) (ha : ∀ e ∈ evs, e.Consumes)
    (hwaits : Meets (step b) Waits q evs) (hrun : exec (step b) q evs = some q') :
    workLeft q' + evs.countP (fun e => !e.idle) ≤ workLeft q := by
  induction evs generalizing q with
  | nil => cases hrun; exact Nat.le_refl _
  | cons e es ih =>
      obtain ⟨q₁, h1, h2⟩ := exec_cons.1 hrun
      obtain ⟨hinv, -, -, hwork⟩ := h.of_step hb (ha e (.head _)) h1
      have hless := hwork hwaits.1
      have hrest := ih hinv (fun e' he' => ha e' (.tail _ he')) (hwaits.2 q₁ h1) h2
      rw [List.countP_cons]
      cases hi : e.idle <;> simp [hi] at hless ⊢ <;> omega

/-- Something can happen as long as the owner has something to see. -/
theorem Inv.enabled_of_future (h : Inv b q) (hf : future q ≠ []) :
    enabled b q (.ready []) = true ∨ enabled b q (.resume []) = true := by
  cases haw : q.awake with
  | true => right; simp [enabled, haw, h.awake_request haw, Binding.isRequest]
  | false =>
      left
      cases hc : q.conn with
      | true => simp [enabled, hc]
      | false => simp [future, haw, hc] at hf

/-- When nothing more can happen, the owner has nothing to see. -/
theorem Inv.future_eq_nil (h : Inv b q) (hno : ∀ e, enabled b q e = false) : future q = [] := by
  by_contra hf
  rcases h.enabled_of_future hf with hen | hen
  · exact absurd ((hno _).symm.trans hen) nofun
  · exact absurd ((hno _).symm.trans hen) nofun

end

/-- With `db_state_change`, scheduling a query shows `WAIT` to the callback. -/
theorem start_callback (rs : List PGresult) :
    start (.callback dbStateChange) rs = .ok { server := rs, observed := [.wait] } := by
  simp [start, pgsqlSchedule, budget, callCb, Query.setAwake, Binding.isRequest, dbStateChange]
  rfl

/-- A disciplined query starts in the invariant, with everything to see. -/
theorem start_inv {b : Binding} (hb : Disciplined b) (rs : List PGresult) :
    ∃ q, start b rs = .ok q ∧ Inv b q ∧ seen q = [] ∧ future q = expected rs ∧
      q.awake = false := by
  rcases hb with rfl | rfl
  · refine ⟨{ server := rs }, ?_, .of_asleep rfl rfl, rfl, rfl, rfl⟩
    simp [start, pgsqlSchedule, budget, callCb, Query.setAwake, Binding.isRequest]
  · exact ⟨_, start_callback rs, .of_asleep rfl rfl, rfl, rfl, rfl⟩

/-- **Result delivery in both modes.** Let a request or the callback `db_state_change` own the query,
and let libpq answer in any pattern, with the socket readable at any times. Every event that can happen
returns, so no released connection is dereferenced. In every run that heeds the woken request, what the
owner has seen apart from `WAIT` is a prefix of the expected states. When nothing more can happen, it has
seen exactly the expected states if and only if the run heeded the request. And in a run that waits for the
request, all but a bounded number of the events were busy answers. -/
theorem results_delivered_iff (b : Binding) (hb : b = .request ∨ b = .callback dbStateChange)
    (rs : List PGresult) :
    ∃ q₀, start b rs = .ok q₀ ∧
      ∀ (evs : List Ev) (q : Query), (∀ e ∈ evs, e.Consumes) → exec (step b) q₀ evs = some q →
        (∀ e, enabled b q e = true → e.Consumes → ∃ q', onEvent b q e = .ok q') ∧
        (Meets (step b) Heeds q₀ evs → seen q <+: expected rs) ∧
        ((∀ e, enabled b q e = false) → (seen q = expected rs ↔ Meets (step b) Heeds q₀ evs)) ∧
        (Meets (step b) Waits q₀ evs →
          evs.countP (fun e => !e.idle) ≤ 2 * (expected rs).length + 1) := by
  obtain ⟨q₀, h0, hinv, hs0, hf0, haw0⟩ := start_inv hb rs
  refine ⟨q₀, h0, fun evs q ha hrun => ?_⟩
  have hlast : Inv b q := (hinv.run hb ha hrun).1
  have hkept : Meets (step b) Heeds q₀ evs → seen q ++ future q = expected rs := fun hheeds => by
    rw [hinv.run_heeds hb ha hheeds hrun, hs0, hf0, List.nil_append]
  refine ⟨fun e hen hc => ?_, fun hheeds => ⟨future q, hkept hheeds⟩, fun hno => ?_, fun hwaits => ?_⟩
  · obtain ⟨q', hevent, -⟩ := hlast.event hb hen hc
    exact ⟨q', hevent⟩
  · have hnil := hlast.future_eq_nil hno
    constructor
    · intro hseen
      refine hinv.run_meets hb ha hrun ?_
      rw [hs0, hf0, hnil, hseen, List.nil_append, List.append_nil]
    · intro hheeds
      have hall := hkept hheeds
      rwa [hnil, List.append_nil] at hall
  · have hwork := hinv.run_waits hb ha hwaits hrun
    rw [workLeft, workLeft, hf0, haw0] at hwork
    simp only [Bool.false_eq_true, if_false] at hwork
    omega

/-- Nothing more happens to a query that was released and whose owner sleeps. -/
theorem enabled_of_released {b : Binding} {q : Query} (hc : q.conn = false) (haw : q.awake = false)
    (e : Ev) : enabled b q e = false := by
  cases e with
  | ready as => exact hc
  | resume as => rw [enabled, haw, Bool.and_false]

/-- A request whose query has a row, a result that means nothing and an error, started. -/
def sampleQuery : Query := { server := [⟨0, .tuplesOk, ""⟩, ⟨1, .copyOut, ""⟩, ⟨2, .fatalError, "boom"⟩] }

/-- libpq is busy first, and the socket is readable again before the request has seen `DONE`. -/
def sampleEvents : List Ev :=
  [.ready [⟨true, true⟩], .ready [], .resume [], .resume [], .ready [], .resume [], .resume []]

/-- The request sees everything: `DONE` is not overwritten. -/
theorem results_delivered_iff_request : ∃ q, exec (step .request) sampleQuery sampleEvents = some q ∧
    seen q = [.result, .error, .done, .complete] := by
  obtain ⟨q₀, h0, h⟩ := results_delivered_iff .request (.inl rfl) sampleQuery.server
  obtain rfl : sampleQuery = q₀ := Except.ok.inj h0
  have hrun : (exec (step .request) sampleQuery sampleEvents).any (fun q => !q.conn && !q.awake) = true := by
    decide +kernel
  obtain ⟨q, hexec, hq⟩ := (Option.any_eq_true _ _).1 hrun
  rw [Bool.and_eq_true, Bool.not_eq_true', Bool.not_eq_true'] at hq
  have hconsumes : ∀ e ∈ sampleEvents, e.Consumes := by simp [sampleEvents, Ev.Consumes, Ev.answers]
  have hheeds : Meets (step .request) Heeds sampleQuery sampleEvents := by decide +kernel
  exact ⟨q, hexec, ((h _ q hconsumes hexec).2.2.1 (enabled_of_released hq.1 hq.2)).2 hheeds⟩

/-- Two results with rows, and the socket is readable again before the request has run: it does not see
the first. -/
theorem overwritten_result_unseen :
    ¬ ∀ (b : Binding), b = .request ∨ b = .callback dbStateChange → ∀ rs : List PGresult,
      ∃ q₀, start b rs = .ok q₀ ∧ ∀ (evs : List Ev) (q : Query), (∀ e ∈ evs, e.Consumes) →
        exec (step b) q₀ evs = some q → (∀ e, enabled b q e = false) → seen q = expected rs := by
  intro h
  obtain ⟨q₀, h0, h⟩ := h .request (.inl rfl) [⟨0, .tuplesOk, ""⟩, ⟨1, .tuplesOk, ""⟩]
  obtain rfl : ({ server := [⟨0, .tuplesOk, ""⟩, ⟨1, .tuplesOk, ""⟩] } : Query) = q₀ := Except.ok.inj h0
  have hrun : (exec (step .request) { server := [⟨0, .tuplesOk, ""⟩, ⟨1, .tuplesOk, ""⟩] }
      [.ready [], .ready [], .resume [], .resume [], .resume []]).any (fun q =>
        !q.conn && !q.awake && decide (seen q = [.result, .done, .complete])) = true := by
    decide +kernel
  obtain ⟨q, hexec, hq⟩ := (Option.any_eq_true _ _).1 hrun
  simp only [Bool.and_eq_true, Bool.not_eq_true', decide_eq_true_eq] at hq
  have hconsumes : ∀ e ∈ [Ev.ready [], .ready [], .resume [], .resume [], .resume []], e.Consumes := by
    simp [Ev.Consumes, Ev.answers]
  have hseen := h _ q hconsumes hexec (enabled_of_released hq.1.1 hq.1.2)
  exact absurd (hq.2.symm.trans hseen) (by decide)

/-! ## The state after the handler has returned -/

section
variable {acts : List PgState → List Act} {n : Nat} {q q' : Query}

/-- The states a query can be in when no call is running. -/
def Settled (s : PgState) : Prop := s = .wait ∨ s = .done ∨ s = .complete

/-- A callback that is called in a settled state leaves a settled state, whatever it calls. -/
theorem callCb_settled (hs : Settled q.state) (h : callCb (.callback acts) n q = .ok q') :
    Settled q'.state := by
  induction n using Nat.strong_induction_on generalizing q q' with
  | _ n ih =>
  have hrelease : ∀ {m q₁ q₂}, m < n → Settled q₁.state →
      pgsqlConnRelease (.callback acts) m q₁ = .ok q₂ → Settled q₂.state := by
    intro m q₁ q₂ hm h1 h2
    cases m with
    | zero => cases h2
    | succ m =>
        rw [pgsqlConnRelease] at h2
        split at h2
        · cases h2; exact h1
        · exact ih m (by omega) (.inr (.inr rfl)) h2
  have hcontinue : ∀ {m q₁ q₂}, m < n → Settled q₁.state →
      korePgsqlContinue (.callback acts) m q₁ = .ok q₂ → Settled q₂.state := by
    intro m q₁ q₂ hm h1 h2
    cases m with
    | zero => cases h2
    | succ m =>
        rw [korePgsqlContinue] at h2
        simp only [Query.pqClear] at h2
        rcases h1 with hstate | hstate | hstate <;> simp only [hstate] at h2
        · cases h2; exact .inl rfl
        · exact hrelease (by omega) (.inr (.inl rfl)) h2
        · cases h2
  have hcleanup : ∀ {m q₁ q₂}, m < n → Settled q₁.state →
      korePgsqlCleanup (.callback acts) m q₁ = .ok q₂ → Settled q₂.state := by
    intro m q₁ q₂ hm h1 h2
    cases m with
    | zero => cases h2
    | succ m =>
        rw [korePgsqlCleanup] at h2
        split at h2
        · obtain ⟨q₃, h3, h4⟩ := bind_eq_ok.1 h2
          cases h4
          have hq₁ : Settled q₁.pqClear.state := h1
          change Settled q₃.state
          exact hrelease (Nat.lt_of_succ_lt hm) hq₁ h3
        · cases h2; exact h1
  cases n with
  | zero => cases h
  | succ n =>
      rw [callCb] at h
      refine foldlM_inv (I := fun q₁ => Settled q₁.state) (fun q₁ act q₂ h1 h2 => ?_) h hs
      cases act with
      | «continue» => exact hcontinue (Nat.lt_succ_self n) h1 h2
      | cleanup => exact hcleanup (Nat.lt_succ_self n) h1 h2

/-- The result loop of a callback's query, if it returns, returns in `DONE`. -/
theorem resultLoop_done (h : resultLoop (.callback acts) n q = .ok q') : q'.state = .done := by
  induction n generalizing q with
  | zero => cases h
  | succ n ih =>
      rw [resultLoop] at h
      split at h
      · cases h
      split at h
      · cases h; simp [afterLoop]
      · split at h
        · exact ih h
        · exact ih h
        · exact ih h
        · exact ih h
        all_goals
          obtain ⟨q₁, -, h2⟩ := bind_eq_ok.1 h
          exact ih h2

theorem notifyLoop_done (h : notifyLoop (.callback acts) n q = .ok q') : q'.state = .done := by
  induction n generalizing q with
  | zero => cases h
  | succ n ih =>
      rw [notifyLoop] at h
      split at h
      · cases h
      split at h
      · exact resultLoop_done h
      · obtain ⟨q₁, -, h2⟩ := bind_eq_ok.1 h
        exact ih h2

/-- `kore_pgsql_handle` for a callback returns in a settled state. -/
theorem handle_settled (ha : ∀ a ∈ q.answers, a.consumed = true)
    (h : korePgsqlHandle (.callback acts) n q = .ok q') : Settled q'.state := by
  cases n with
  | zero => cases h
  | succ n =>
      rw [korePgsqlHandle] at h
      split at h
      · cases h
      next hc =>
        simp only [Query.answer, answer_consumed ha, if_true] at h
        obtain ⟨q₁, h1, h2⟩ := bind_eq_ok.1 h
        refine callCb_settled (q := q₁.setAwake _ _) ?_ h2
        show Settled q₁.state
        cases n with
        | zero => cases h1
        | succ n =>
            rw [pgsqlReadResult, if_neg hc] at h1
            split at h1
            · cases h1; exact .inl rfl
            · exact .inr (.inl (notifyLoop_done h1))

/-- Every run of a callback's query stays in settled states. -/
theorem run_settled {evs : List Ev} (hs : Settled q.state) (ha : ∀ e ∈ evs, e.Consumes)
    (h : exec (step (.callback acts)) q evs = some q') : Settled q'.state := by
  induction evs generalizing q with
  | nil => cases h; exact hs
  | cons e es ih =>
      obtain ⟨q₁, h1, h2⟩ := exec_cons.1 h
      refine ih ?_ (fun e' he' => ha e' (.tail _ he')) h2
      simp only [step, Option.ite_none_right_eq_some] at h1
      obtain ⟨hen, h1⟩ := h1
      cases e with
      | resume as => simp [enabled, Binding.isRequest] at hen
      | ready as =>
          cases hh : onEvent (.callback acts) q (.ready as) with
          | error e => rw [hh] at h1; cases h1
          | ok q₂ =>
              rw [hh] at h1; cases h1
              exact handle_settled (q := { q with answers := as }) (ha _ (.head _)) hh

end

/-- With `db_state_change`, one readable socket is enough to process any list of results. -/
theorem dbStateChange_processes (rs : List PGresult) :
    ∃ q₀ q, start (.callback dbStateChange) rs = .ok q₀ ∧
      exec (step (.callback dbStateChange)) q₀ [.ready []] = some q := by
  obtain ⟨q₀, h0, hinv, -, hf, haw⟩ := start_inv (.inr rfl) rs
  have hc : q₀.conn = true := by
    by_contra hc
    simp [future, haw, hc, expected] at hf
  have hen : enabled (.callback dbStateChange) q₀ (.ready []) = true := by
    simp [enabled, hc]
  obtain ⟨q, h1, -⟩ := hinv.event (.inr rfl) hen (fun a h => by cases h)
  refine ⟨q₀, q, h0, exec_cons.2 ⟨q, ?_, rfl⟩⟩
  rw [step, if_pos hen, h1]; rfl

/-- **An SQL error does not survive.** For every callback, every list of results and every run in
which libpq had the results ready, the query is in the state `ERROR` afterwards, as it should be when
some result is an error, exactly when none is: the error is always masked. With `db_state_change`
every list of results has such a run. -/
theorem error_state_never_survives (rs : List PGresult) :
    (∀ (acts : List PgState → List Act) (q₀ q : Query) (evs : List Ev),
      start (.callback acts) rs = .ok q₀ → (∀ e ∈ evs, e.Consumes) → (∃ e ∈ evs, e.idle = false) →
      exec (step (.callback acts)) q₀ evs = some q →
      (((∃ r ∈ rs, r.status.isError = true) → q.state = .error) ↔
        ∀ r ∈ rs, r.status.isError = false)) ∧
    ∃ q₀ q, start (.callback dbStateChange) rs = .ok q₀ ∧
      exec (step (.callback dbStateChange)) q₀ [.ready []] = some q := by
  constructor
  · intro acts q₀ q evs h0 ha hev hrun
    have hset : Settled q.state := run_settled (callCb_settled (.inl rfl) h0) ha hrun
    have hne : q.state ≠ .error := by
      rcases hset with h | h | h <;> rw [h] <;> simp
    constructor
    · intro hp r hr
      by_contra hre
      exact hne (hp ⟨r, hr, by simpa using hre⟩)
    · rintro hno ⟨r, hr, hre⟩
      rw [hno r hr] at hre; cases hre
  · exact dbStateChange_processes rs

/-- A single `PGRES_FATAL_ERROR`, read in one event: the state afterwards is not `ERROR`. -/
theorem error_state_masked :
    ¬ ∀ (rs : List PGresult) (acts : List PgState → List Act) (q₀ q : Query) (evs : List Ev),
      start (.callback acts) rs = .ok q₀ → (∀ e ∈ evs, e.Consumes) → (∃ e ∈ evs, e.idle = false) →
      exec (step (.callback acts)) q₀ evs = some q →
      (∃ r ∈ rs, r.status.isError = true) → q.state = .error := by
  intro h
  obtain ⟨q₀, q, h0, hrun⟩ := dbStateChange_processes [⟨0, .fatalError, "boom"⟩]
  have hcons : ∀ e ∈ [Ev.ready []], e.Consumes := by simp [Ev.Consumes, Ev.answers]
  have herr := h _ _ q₀ q _ h0 hcons ⟨_, .head _, rfl⟩ hrun ⟨_, .head _, rfl⟩
  rcases run_settled (callCb_settled (.inl rfl) h0) hcons hrun with hs | hs | hs
  all_goals rw [herr] at hs; cases hs

end KoreWebsocket.Pgsql
