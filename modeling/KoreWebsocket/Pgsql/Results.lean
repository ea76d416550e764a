import KoreWebsocket.Pgsql.Query

/-!
# The results of a query (`websocket_13/pgsql.c`)

Every `PGresult` that libpq gives should be passed to `PQclear` once. `pgsql->result` has the last one;
the loop of `pgsql_read_result` stores the next over it, and clears it itself only for rows. So a result
of another kind is lost unless the owner of the query clears it first with `kore_pgsql_continue`, and
`kore_pgsql_cleanup` leaves the pointer to the result it has cleared while it calls back (`Keeps`).

A callback may use its query, so the functions are cut where it is called. A point says where the code
is, and a stack what goes on when a callback or a call from a callback returns. What libpq says is in the
events. One that makes the code call `fatal` or dereference `NULL` is not enabled.
-/

namespace KoreWebsocket.Pgsql.Results

/-- What does not change: `pgsql->req` is not `NULL`, or else `pgsql->cb`, and the flag
`KORE_PGSQL_SYNC`. -/
structure Mode where
  request : Bool
  sync : Bool
  deriving DecidableEq, Repr

/-- Where the code is. -/
inductive Point
  /-- the event loop -/
  | loop
  /-- the callback -/
  | user
  /-- `kore_pgsql_handle` at `PQconsumeInput` -/
  | input
  /-- `pgsql_read_result` at `PQnotifies` -/
  | notifies
  /-- `pgsql_read_result` at `PQgetResult` -/
  | results
  deriving DecidableEq, Repr

/-- What goes on after a return. -/
inductive Return
  /-- the callback, after its call -/
  | user
  /-- `pgsql_read_result`, after the callback for a notification -/
  | notifies
  /-- `pgsql_read_result`, after the callback for a result that is not cleared -/
  | results
  /-- `pgsql_read_result`, after the callback for rows -/
  | tuples
  /-- `kore_pgsql_cleanup`, after `pgsql_conn_release` -/
  | cleanup
  deriving DecidableEq, Repr

/-- `struct kore_pgsql`. Results are numbered as libpq gives them; `obtained` is their number, and
`cleared` are those that were passed to `PQclear`. -/
structure St where
  state : PgState := .init
  result : Option Nat := none
  conn : Bool := true
  scheduled : Bool := false
  point : Point := .loop
  stack : List Return := []
  obtained : Nat := 0
  cleared : List Nat := []
  deriving DecidableEq, Repr

namespace St

/-- `PQclear(pgsql->result)`. -/
def pqClear (st : St) : St := { st with cleared := st.result.toList ++ st.cleared }

/-- A result is stored in `pgsql->result`. -/
def store (st : St) : St := { st with result := some st.obtained, obtained := st.obtained + 1 }

/-- A call, from the callback or from the event loop. -/
def enter (st : St) : St :=
  { st with stack := if st.point = .user then .user :: st.stack else st.stack }

end St

/-- A return to what is on the stack. -/
def goOn : List Return → St → St
  | [], st => { st with point := .loop, stack := [] }
  | .user :: rest, st => { st with point := .user, stack := rest }
  | .notifies :: rest, st => { st with point := .notifies, stack := rest }
  | .results :: rest, st => { st with point := .results, stack := rest }
  | .tuples :: rest, st => { st.pqClear with result := none, point := .results, stack := rest }
  | .cleanup :: rest, st => goOn rest { st with result := none, conn := false, stack := rest }

variable (m : Mode)

/-- `if (pgsql->cb != NULL) pgsql->cb(pgsql, pgsql->arg)` at the end of a call. -/
def tailCb (st : St) : St :=
  if m.request then goOn st.stack st else { st with point := .user }

/-- `pgsql_conn_release`, where `PQgetResult` has a number of results to drain. -/
def connRelease (st : St) (drained : Nat) : St :=
  if st.conn then
    tailCb m
      { st with
        obtained := st.obtained + drained
        cleared := (List.range' st.obtained drained).reverse ++ st.cleared
        conn := false
        state := .complete }
  else goOn st.stack st

/-- `kore_pgsql_continue`. -/
def korePgsqlContinue (st : St) (drained : Nat) : Option St :=
  let st := { st.pqClear with result := none }
  match st.state with
  | .init | .wait => some st
  | .done => some (connRelease m st.enter drained)
  | .error | .result | .notify | .commandok =>
      if st.conn ∧ ¬ m.sync then some { st.enter with point := .input } else none
  | .complete => none

/-- `kore_pgsql_cleanup`. -/
def korePgsqlCleanup (st : St) (drained : Nat) : St :=
  let st := st.pqClear.enter
  connRelease m { st with stack := .cleanup :: st.stack } drained

/-- `kore_pgsql_query`, with the status of what `PQexec` returns or whether `PQsendQuery` succeeds. -/
def korePgsqlQuery (st : St) (executed : Option ResultStatus) (sent : Bool) : St :=
  if st.conn = false then { st with state := .error }
  else if m.sync then
    match executed with
    | none => { st with result := none, state := .error }
    | some status =>
        if status = .tuplesOk ∨ status = .commandOk then { st.store with state := .done }
        else { st.store with state := .error }
  else if sent then tailCb m { st.enter with state := .wait, scheduled := true }
  else { st with state := .error }

/-- `kore_pgsql_handle` up to the notifications. -/
def consumeInput (st : St) (answer : Answer) : St :=
  if answer.consumed = false then tailCb m { st with state := .error }
  else if answer.busy then tailCb m { st with state := .wait }
  else { st with point := .notifies }

/-- A round of the loop over the notifications. -/
def notifies (st : St) (notify : Bool) : St :=
  if notify then
    if m.request then { st with state := .notify }
    else { st with state := .notify, stack := .notifies :: st.stack, point := .user }
  else { st with point := .results }

/-- A result is read: a request returns to the event loop, a callback is called and the loop goes on. -/
def report (st : St) (next : Return) : St :=
  if m.request then tailCb m st else { st with stack := next :: st.stack, point := .user }

/-- A round of the loop over the results, and the end of `kore_pgsql_handle`. -/
def getResult (st : St) : Option ResultStatus → St
  | none => tailCb m { st with result := none, state := .done }
  | some .copyOut | some .copyIn | some .nonfatalError | some .copyBoth => st.store
  | some .commandOk => report m { st.store with state := .commandok } .results
  | some .tuplesOk | some .singleTuple => report m { st.store with state := .result } .tuples
  | some .emptyQuery | some .badResponse | some .fatalError =>
      report m { st.store with state := .error } .results

/-- What can happen to a query. -/
inductive Ev
  /-- `kore_pgsql_query` -/
  | query (executed : Option ResultStatus) (sent : Bool)
  /-- `kore_pgsql_continue` -/
  | continue (drained : Nat)
  /-- `kore_pgsql_cleanup` -/
  | cleanup (drained : Nat)
  /-- the callback returns -/
  | ret
  /-- the socket is readable -/
  | ready
  /-- there is an error on the socket, and `pgsql_conn_cleanup` takes the connection away -/
  | error
  /-- libpq reads from the socket -/
  | input (answer : Answer)
  /-- `PQnotifies` returns a notification or `NULL` -/
  | notify (notify : Bool)
  /-- `PQgetResult` returns a result or `NULL` -/
  | getResult (status : Option ResultStatus)
  deriving DecidableEq, Repr

/-- The event loop or the callback is in control. -/
def St.mayCall (st : St) : Prop := st.point = .loop ∨ st.point = .user

instance (st : St) : Decidable st.mayCall := inferInstanceAs (Decidable (_ ∨ _))

/-- The state after an event. -/
def step (st : St) : Ev → Option St
  | .query executed sent => if st.mayCall then some (korePgsqlQuery m st executed sent) else none
  | .continue drained => if st.mayCall then korePgsqlContinue m st drained else none
  | .cleanup drained => if st.mayCall then some (korePgsqlCleanup m st drained) else none
  | .ret => if st.point = .user then some (goOn st.stack st) else none
  | .ready =>
      if st.point = .loop ∧ st.conn ∧ st.scheduled then some { st with point := .input } else none
  | .error =>
      if st.point = .loop ∧ st.conn ∧ st.scheduled then some { st with conn := false, state := .error }
      else none
  | .input answer => if st.point = .input ∧ st.conn then some (consumeInput m st answer) else none
  | .notify notify => if st.point = .notifies ∧ st.conn then some (notifies m st notify) else none
  | .getResult status => if st.point = .results ∧ st.conn then some (getResult m st status) else none

/-- Every result was cleared, or the query has it still, and none was cleared twice. -/
def Accounted (st : St) : Prop :=
  st.cleared.Nodup ∧ ∀ n < st.obtained, n ∈ st.cleared ∨ st.result = some n

instance (st : St) : Decidable (Accounted st) := inferInstanceAs (Decidable (_ ∧ _))

/-- A step does not lose a result and does not clear one again. -/
def Keeps (st : St) : Ev → Prop
  | .getResult (some status) =>
      status ≠ .copyOut ∧ status ≠ .copyIn ∧ status ≠ .copyBoth ∧ status ≠ .nonfatalError
  | .notify notify => notify = false → st.result = none
  | .ret => st.stack.head? = some .results → st.result = none
  | .query _ _ => m.sync = true → st.conn = true → st.result = none
  | .cleanup _ => st.stack.head? = some .cleanup → st.result = none
  | .getResult none | .continue _ | .ready | .error | .input _ => True

instance (st : St) : (ev : Ev) → Decidable (Keeps m st ev)
  | .getResult (some _) => inferInstanceAs (Decidable (_ ∧ _))
  | .notify _ | .ret | .cleanup _ => inferInstanceAs (Decidable (_ → _))
  | .query _ _ => inferInstanceAs (Decidable (_ → _ → _))
  | .getResult none | .continue _ | .ready | .error | .input _ => isTrue trivial

/-- What holds of every state that is reached. While `kore_pgsql_cleanup` calls back there is no
connection, and `pgsql->result` is cleared; otherwise it is not. -/
structure WellFormed (st : St) : Prop where
  cleared : ∀ n ∈ st.cleared, n < st.obtained
  result : ∀ n, st.result = some n → n < st.obtained
  released : st.conn = false → st.state = .complete ∨ st.state = .error
  tail : .cleanup ∉ st.stack.tail
  cleaning : st.stack.head? = some .cleanup →
    st.conn = false ∧ ∀ n, st.result = some n → n ∈ st.cleared
  held : st.stack.head? ≠ some .cleanup → ∀ n, st.result = some n → n ∉ st.cleared
  loop : st.point = .loop → st.stack = []
  request : m.request = true → st.stack = [] ∧ st.point ≠ .user

/-- No result is lost, and the loop does not lose one by its next store. -/
structure Sound (st : St) : Prop where
  accounted : Accounted st
  results : st.point = .results → st.result = none

/-! ## Returns -/

section
variable {m} {st st' : St}

/-- A call that returns leaves the point and the stack as they were. -/
theorem goOn_enter (h : WellFormed m st) (hcall : st.mayCall) (st₁ : St) :
    goOn st.enter.stack st₁ = { st₁ with point := st.point, stack := st.stack } := by
  unfold St.enter
  dsimp only
  rcases hcall with hloop | huser
  · rw [if_neg (by rw [hloop]; decide), h.loop hloop, hloop]
    rfl
  · rw [if_pos huser, huser]
    rfl

/-- The end of a call, without the frame it has come from. -/
theorem tailCb_eq (h : m.request = true → st.stack = []) :
    tailCb m st = { st with point := if m.request then .loop else .user } := by
  unfold tailCb
  cases hrequest : m.request with
  | true =>
      rw [if_pos rfl, if_pos rfl, h hrequest]
      unfold goOn
      rw [← h hrequest]
  | false => rfl

/-- Nothing waits on the stack of a request. -/
theorem stack_enter_request (h : WellFormed m st) (hrequest : m.request = true) :
    st.enter.stack = [] := by
  obtain ⟨hstack, hpoint⟩ := h.request hrequest
  unfold St.enter
  dsimp only
  rw [if_neg hpoint, hstack]

/-- What holds of a state at another point. -/
theorem WellFormed.at (h : WellFormed m st) (point : Point) (hloop : point = .loop → st.stack = [])
    (huser : m.request = true → point ≠ .user) : WellFormed m { st with point } where
  cleared := h.cleared
  result := h.result
  released := h.released
  tail := h.tail
  cleaning := h.cleaning
  held := h.held
  loop := hloop
  request := fun hrequest => ⟨(h.request hrequest).1, huser hrequest⟩

/-- The callback is called, or the request is back in the event loop. -/
theorem WellFormed.tailCb (h : WellFormed m st) : WellFormed m (tailCb m st) := by
  rw [tailCb_eq fun hrequest => (h.request hrequest).1]
  refine h.at _ (fun hloop => ?_) fun hrequest hpoint => ?_
  · by_cases hrequest : m.request = true
    · exact (h.request hrequest).1
    · rw [if_neg hrequest] at hloop
      cases hloop
  · rw [if_pos hrequest] at hpoint
    cases hpoint

/-- The result is cleared, and the query has none. -/
theorem WellFormed.clear (h : WellFormed m st) : WellFormed m { st.pqClear with result := none } where
  cleared := fun n hn => by
    rcases List.mem_append.1 hn with hn | hn
    · exact h.result n (Option.mem_toList.1 hn)
    · exact h.cleared n hn
  result := fun _ hn => nomatch hn
  released := h.released
  tail := h.tail
  cleaning := fun hhead => ⟨(h.cleaning hhead).1, fun _ hn => nomatch hn⟩
  held := fun _ _ hn => nomatch hn
  loop := h.loop
  request := h.request

/-- The pointer to the result is set to `NULL`. -/
theorem WellFormed.forget (h : WellFormed m st) : WellFormed m { st with result := none } where
  cleared := h.cleared
  result := fun _ hn => nomatch hn
  released := h.released
  tail := h.tail
  cleaning := fun hhead => ⟨(h.cleaning hhead).1, fun _ hn => nomatch hn⟩
  held := fun _ _ hn => nomatch hn
  loop := h.loop
  request := h.request

/-- A frame is popped. -/
theorem WellFormed.pop (h : WellFormed m st) {frame : Return} {rest : List Return}
    (hstack : st.stack = frame :: rest) (hframe : frame ≠ .cleanup) {point : Point}
    (hpoint : point ≠ .loop) : WellFormed m { st with point, stack := rest } where
  cleared := h.cleared
  result := h.result
  released := h.released
  tail := fun hmem => h.tail (by rw [hstack]; exact List.mem_of_mem_tail hmem)
  cleaning := fun hhead => absurd (List.mem_of_head? hhead) (by
    have htail := h.tail
    rwa [hstack] at htail)
  held := fun _ => h.held (by
    rw [hstack]
    exact fun heq => hframe (Option.some.inj heq))
  loop := fun heq => absurd heq hpoint
  request := fun hrequest => by
    have hnil := (h.request hrequest).1
    rw [hstack] at hnil
    cases hnil

/-- The end of `kore_pgsql_cleanup`. -/
theorem WellFormed.popCleanup (h : WellFormed m st) {rest : List Return}
    (hstack : st.stack = .cleanup :: rest) :
    WellFormed m { st with result := none, conn := false, stack := rest } where
  cleared := h.cleared
  result := fun _ hn => nomatch hn
  released := fun _ => h.released (h.cleaning (by rw [hstack]; rfl)).1
  tail := fun hmem => h.tail (by rw [hstack]; exact List.mem_of_mem_tail hmem)
  cleaning := fun _ => ⟨rfl, fun _ hn => nomatch hn⟩
  held := fun _ _ hn => nomatch hn
  loop := fun hloop => by
    have hnil := h.loop hloop
    rw [hstack] at hnil
    cases hnil
  request := fun hrequest => by
    have hnil := (h.request hrequest).1
    rw [hstack] at hnil
    cases hnil

/-- A return, by induction on the stack: only a `cleanup` goes on to the next frame. -/
theorem WellFormed.goOn {stack : List Return} (h : WellFormed m st) (hstack : st.stack = stack) :
    WellFormed m (goOn stack st) := by
  induction stack generalizing st with
  | nil =>
      have hloop := h.at .loop (fun _ => hstack) fun _ => nofun
      unfold Results.goOn
      rwa [← hstack]
  | cons frame rest ih =>
      cases frame with
      | user => exact h.pop hstack (by decide) (by decide)
      | notifies => exact h.pop hstack (by decide) (by decide)
      | results => exact h.pop hstack (by decide) (by decide)
      | tuples => exact h.clear.pop hstack (by decide) (by decide)
      | cleanup => exact ih (h.popCleanup hstack) rfl

/-- While there is a connection, `kore_pgsql_cleanup` does not wait. -/
theorem WellFormed.not_cleaning (h : WellFormed m st) (hconn : st.conn = true) :
    .cleanup ∉ st.stack := by
  intro hmem
  have hhead : st.stack.head? ≠ some .cleanup := fun hhead => by
    rw [(h.cleaning hhead).1] at hconn
    cases hconn
  have htail := h.tail
  cases hstack : st.stack with
  | nil =>
      rw [hstack] at hmem
      cases hmem
  | cons frame rest =>
      rw [hstack] at hmem hhead htail
      rcases List.mem_cons.1 hmem with heq | hmem
      · exact hhead (congrArg some heq.symm)
      · exact htail hmem

/-- There is a connection, so no `kore_pgsql_cleanup` waits for its callback. -/
theorem WellFormed.head_ne (h : WellFormed m st) (hconn : st.conn = true) :
    st.stack.head? ≠ some .cleanup :=
  fun hhead => h.not_cleaning hconn (List.mem_of_head? hhead)

/-- A new result that is stored has a number of its own. -/
theorem WellFormed.store (h : WellFormed m st) (hconn : st.conn = true) : WellFormed m st.store where
  cleared := fun n hn => Nat.lt_succ_of_lt (h.cleared n hn)
  result := fun n hn => by
    rw [← Option.some.inj hn]
    exact Nat.lt_succ_self _
  released := h.released
  tail := h.tail
  cleaning := fun hhead => absurd hhead (h.head_ne hconn)
  held := fun _ n hn hmem => by
    rw [← Option.some.inj hn] at hmem
    exact Nat.lt_irrefl _ (h.cleared _ hmem)
  loop := h.loop
  request := h.request

/-- A call from the callback leaves a frame. -/
theorem WellFormed.enter (h : WellFormed m st) (hconn : st.conn = true) : WellFormed m st.enter := by
  by_cases hpoint : st.point = .user
  · have hstack : st.enter.stack = .user :: st.stack := if_pos hpoint
    exact {
      cleared := h.cleared
      result := h.result
      released := h.released
      tail := by
        rw [hstack]
        exact h.not_cleaning hconn
      cleaning := fun hhead => by
        rw [hstack] at hhead
        cases hhead
      held := fun _ => h.held (h.head_ne hconn)
      loop := fun hloop => absurd (hpoint.symm.trans hloop) nofun
      request := fun hrequest => absurd hpoint (h.request hrequest).2 }
  · have hsame : st.enter = st := by
      unfold St.enter
      rw [if_neg hpoint]
    rwa [hsame]

/-- The results that `pgsql_conn_release` drains are cleared at once. -/
theorem WellFormed.drain (h : WellFormed m st) (hconn : st.conn = true) (drained : Nat) :
    WellFormed m
      { st with
        obtained := st.obtained + drained
        cleared := (List.range' st.obtained drained).reverse ++ st.cleared
        conn := false
        state := .complete } where
  cleared := fun n hn => by
    rcases List.mem_append.1 hn with hn | hn
    · rw [List.mem_reverse, List.mem_range'_1] at hn
      exact hn.2
    · exact Nat.lt_add_right drained (h.cleared n hn)
  result := fun n hn => Nat.lt_add_right drained (h.result n hn)
  released := fun _ => .inl rfl
  tail := h.tail
  cleaning := fun hhead => absurd hhead (h.head_ne hconn)
  held := fun hhead n hn hmem => by
    rcases List.mem_append.1 hmem with hmem | hmem
    · rw [List.mem_reverse, List.mem_range'_1] at hmem
      exact absurd (h.result n hn) (Nat.not_lt.2 hmem.1)
    · exact h.held hhead n hn hmem
  loop := h.loop
  request := h.request

/-- In the other states there is a connection. -/
theorem WellFormed.conn_of_done (h : WellFormed m st) (hdone : st.state = .done) : st.conn = true := by
  by_contra hnot
  rcases h.released (Bool.eq_false_iff.2 hnot) with hstate | hstate <;>
    exact absurd (hdone.symm.trans hstate) nofun

/-- While there is a connection, the state is of no account. -/
theorem WellFormed.setState (h : WellFormed m st) (hconn : st.conn = true) (state : PgState)
    (scheduled : Bool) : WellFormed m { st with state, scheduled } :=
  { h with released := fun hreleased => absurd (hconn.symm.trans hreleased) nofun }

/-- Without a connection `kore_pgsql_cleanup` only clears the result. -/
theorem korePgsqlCleanup_of_not_conn (h : WellFormed m st) (hcall : st.mayCall)
    (hconn : st.conn = false) (drained : Nat) :
    korePgsqlCleanup m st drained = { st.pqClear with result := none } := by
  have hconn' : ¬ st.conn = true := by rw [hconn]; exact Bool.false_ne_true
  change (if st.conn = true then _ else goOn (.cleanup :: st.enter.stack) _) = _
  rw [if_neg hconn', goOn, goOn_enter h hcall, ← hconn]
  rfl

/-- `kore_pgsql_cleanup` of a query with a connection: a callback is called while it waits. -/
theorem korePgsqlCleanup_of_conn (h : WellFormed m st) (hconn : st.conn = true) (drained : Nat) :
    korePgsqlCleanup m st drained =
      { st.pqClear with
        obtained := st.obtained + drained
        cleared := (List.range' st.obtained drained).reverse ++ st.pqClear.cleared
        conn := false
        state := .complete
        result := if m.request then none else st.result
        stack := if m.request then [] else .cleanup :: st.enter.stack
        point := if m.request then .loop else .user } := by
  change (if st.conn = true then tailCb m _ else _) = _
  rw [if_pos hconn, tailCb]
  cases hrequest : m.request with
  | true =>
      rw [if_pos rfl, if_pos rfl, if_pos rfl, if_pos rfl]
      change goOn (.cleanup :: st.enter.stack) _ = _
      rw [stack_enter_request h hrequest]
      rfl
  | false => rfl

/-- A frame that goes on in `pgsql_read_result` is pushed for a callback. -/
theorem WellFormed.push (h : WellFormed m st) (hconn : st.conn = true) {frame : Return}
    (hframe : frame ≠ .cleanup) (hrequest : m.request = false) :
    WellFormed m { st with stack := frame :: st.stack, point := .user } where
  cleared := h.cleared
  result := h.result
  released := h.released
  tail := h.not_cleaning hconn
  cleaning := fun hhead => absurd (Option.some.inj hhead) hframe
  held := fun _ => h.held (h.head_ne hconn)
  loop := nofun
  request := fun hrequest' => absurd (hrequest.symm.trans hrequest') nofun

/-- A result that is reported is still the last one. -/
theorem WellFormed.report (h : WellFormed m st) (hconn : st.conn = true) {next : Return}
    (hnext : next ≠ .cleanup) : WellFormed m (report m st next) := by
  unfold Results.report
  split
  case isTrue => exact h.tailCb
  case isFalse hrequest => exact h.push hconn hnext (Bool.eq_false_iff.2 hrequest)

/-- `PQgetResult`, for each status. -/
theorem WellFormed.getResult (h : WellFormed m st) (hconn : st.conn = true)
    (status : Option ResultStatus) : WellFormed m (getResult m st status) := by
  have hstored := h.store hconn
  unfold Results.getResult
  split
  case h_1 => exact (h.forget.setState hconn .done st.scheduled).tailCb
  case h_2 | h_3 | h_4 | h_5 => exact hstored
  case h_6 => exact (hstored.setState hconn .commandok st.scheduled).report hconn (by decide)
  case h_7 | h_8 => exact (hstored.setState hconn .result st.scheduled).report hconn (by decide)
  case h_9 | h_10 | h_11 => exact (hstored.setState hconn .error st.scheduled).report hconn (by decide)

/-- A round of the loop over `PQnotifies`. -/
theorem WellFormed.notifies (h : WellFormed m st) (hconn : st.conn = true) (notify : Bool) :
    WellFormed m (notifies m st notify) := by
  have hnotify := h.setState hconn .notify st.scheduled
  unfold Results.notifies
  split
  · split
    case isTrue => exact hnotify
    case isFalse hrequest => exact hnotify.push hconn (by decide) (Bool.eq_false_iff.2 hrequest)
  · exact h.at .results nofun fun _ => nofun

/-- `kore_pgsql_handle` up to the notifications. -/
theorem WellFormed.consumeInput (h : WellFormed m st) (hconn : st.conn = true) (answer : Answer) :
    WellFormed m (consumeInput m st answer) := by
  unfold Results.consumeInput
  split
  · exact (h.setState hconn .error st.scheduled).tailCb
  · split
    · exact (h.setState hconn .wait st.scheduled).tailCb
    · exact h.at .notifies nofun fun _ => nofun

/-- `kore_pgsql_query`, of both kinds. -/
theorem WellFormed.query (h : WellFormed m st) (executed : Option ResultStatus) (sent : Bool) :
    WellFormed m (korePgsqlQuery m st executed sent) := by
  unfold korePgsqlQuery
  split
  case isTrue => exact { h with released := fun _ => .inr rfl }
  case isFalse hnot =>
    have hconn : st.conn = true := Bool.eq_true_of_not_eq_false hnot
    split
    · split
      · exact h.forget.setState hconn .error st.scheduled
      · split
        · exact (h.store hconn).setState hconn .done st.scheduled
        · exact (h.store hconn).setState hconn .error st.scheduled
    · split
      · exact ((h.enter hconn).setState hconn .wait true).tailCb
      · exact h.setState hconn .error st.scheduled

/-- `kore_pgsql_cleanup`, up to its callback. -/
theorem WellFormed.cleanup (h : WellFormed m st) (hcall : st.mayCall) (drained : Nat) :
    WellFormed m (korePgsqlCleanup m st drained) := by
  cases hconn : st.conn with
  | false =>
      rw [korePgsqlCleanup_of_not_conn h hcall hconn]
      exact h.clear
  | true =>
      rw [korePgsqlCleanup_of_conn h hconn]
      have hclear := h.clear
      have hlt : ∀ n ∈ (List.range' st.obtained drained).reverse ++ st.pqClear.cleared,
          n < st.obtained + drained := by
        intro n hn
        rcases List.mem_append.1 hn with hn | hn
        · rw [List.mem_reverse, List.mem_range'_1] at hn
          exact hn.2
        · exact Nat.lt_add_right drained (hclear.cleared n hn)
      have hresult : ∀ n, (if m.request then none else st.result) = some n → st.result = some n := by
        intro n hn
        split at hn
        · cases hn
        · exact hn
      exact {
        cleared := hlt
        result := fun n hn => Nat.lt_add_right drained (h.result n (hresult n hn))
        released := fun _ => .inl rfl
        tail := by
          dsimp only
          split
          · exact List.not_mem_nil
          · unfold St.enter
            dsimp only [List.tail_cons]
            split
            · exact fun hmem => h.not_cleaning hconn (List.mem_of_ne_of_mem (by decide) hmem)
            · exact h.not_cleaning hconn
        cleaning := fun _ => ⟨rfl, fun n hn =>
          List.mem_append_right _ (List.mem_append_left _ (Option.mem_toList.2 (hresult n hn)))⟩
        held := by
          intro hhead n hn
          cases hrequest : m.request with
          | true =>
              rw [hrequest, if_pos rfl] at hn
              cases hn
          | false =>
              rw [hrequest] at hhead
              exact absurd rfl hhead
        loop := by
          intro hloop
          dsimp only at hloop ⊢
          split at hloop
          case isTrue hrequest => exact if_pos hrequest
          case isFalse => cases hloop
        request := by
          intro hrequest
          dsimp only
          rw [if_pos hrequest, if_pos hrequest]
          exact ⟨rfl, nofun⟩ }

/-- `kore_pgsql_continue`, in each state. -/
theorem WellFormed.continue (h : WellFormed m st) {drained : Nat}
    (hcontinue : korePgsqlContinue m st drained = some st') : WellFormed m st' := by
  have hclear := h.clear
  unfold korePgsqlContinue at hcontinue
  dsimp only at hcontinue
  split at hcontinue
  case h_1 | h_2 =>
    cases hcontinue
    exact hclear
  case h_3 hstate =>
    cases hcontinue
    have hconn := hclear.conn_of_done hstate
    unfold connRelease
    rw [if_pos (by exact hconn)]
    exact ((hclear.enter hconn).drain hconn drained).tailCb
  case h_4 | h_5 | h_6 | h_7 =>
    split at hcontinue
    case isTrue hconn =>
      cases hcontinue
      exact (hclear.enter hconn.1).at .input nofun fun _ => nofun
    case isFalse => cases hcontinue
  case h_8 => cases hcontinue

/-- The connection is taken away in the event loop. -/
theorem WellFormed.error (h : WellFormed m st) (hloop : st.point = .loop) :
    WellFormed m { st with conn := false, state := .error } := by
  have hhead : st.stack.head? ≠ some .cleanup := by
    rw [h.loop hloop]
    exact nofun
  exact { h with
    released := fun _ => .inr rfl
    cleaning := fun hcleanup => absurd hcleanup hhead }

/-- Every event keeps the query well formed. -/
theorem WellFormed.step (h : WellFormed m st) {ev : Ev} (hstep : step m st ev = some st') :
    WellFormed m st' := by
  cases ev with
  | query executed sent =>
      obtain ⟨hcall, heq⟩ := Option.ite_none_right_eq_some.1 hstep
      cases heq
      exact h.query executed sent
  | «continue» drained =>
      obtain ⟨hcall, hcontinue⟩ := Option.ite_none_right_eq_some.1 hstep
      exact h.continue hcontinue
  | cleanup drained =>
      obtain ⟨hcall, heq⟩ := Option.ite_none_right_eq_some.1 hstep
      cases heq
      exact h.cleanup hcall drained
  | ret =>
      obtain ⟨huser, heq⟩ := Option.ite_none_right_eq_some.1 hstep
      cases heq
      exact h.goOn rfl
  | ready =>
      obtain ⟨hready, heq⟩ := Option.ite_none_right_eq_some.1 hstep
      cases heq
      exact h.at .input nofun fun _ => nofun
  | error =>
      obtain ⟨⟨hloop, -⟩, heq⟩ := Option.ite_none_right_eq_some.1 hstep
      cases heq
      exact h.error hloop
  | input answer =>
      obtain ⟨⟨-, hconn⟩, heq⟩ := Option.ite_none_right_eq_some.1 hstep
      cases heq
      exact h.consumeInput hconn answer
  | notify notify =>
      obtain ⟨⟨-, hconn⟩, heq⟩ := Option.ite_none_right_eq_some.1 hstep
      cases heq
      exact h.notifies hconn notify
  | getResult status =>
      obtain ⟨⟨-, hconn⟩, heq⟩ := Option.ite_none_right_eq_some.1 hstep
      cases heq
      exact h.getResult hconn status

theorem wellFormed_new : WellFormed m {} where
  cleared := nofun
  result := nofun
  released := nofun
  tail := nofun
  cleaning := nofun
  held := nofun
  loop := fun _ => rfl
  request := fun _ => ⟨rfl, nofun⟩

/-! ## What a step does to the results -/

/-- A result is cleared once, unless it was cleared before. -/
theorem nodup_pqClear : st.pqClear.cleared.Nodup ↔
    st.cleared.Nodup ∧ ∀ n, st.result = some n → n ∉ st.cleared := by
  unfold St.pqClear
  cases st.result with
  | none => simp
  | some n => simp [and_comm]

/-- After it is cleared, every result was. -/
theorem Accounted.mem_pqClear (h : Accounted st) {n : Nat} (hn : n < st.obtained) :
    n ∈ st.pqClear.cleared := by
  rcases h.2 n hn with hmem | hresult
  · exact List.mem_append_right _ hmem
  · exact List.mem_append_left _ (Option.mem_toList.2 hresult)

/-- The result is cleared that the query has, and it was not cleared before. -/
theorem Accounted.clear (hwf : WellFormed m st) (h : Accounted st)
    (hhead : st.stack.head? ≠ some .cleanup) : Accounted { st.pqClear with result := none } :=
  ⟨nodup_pqClear.2 ⟨h.1, hwf.held hhead⟩, fun _ hn => .inl (h.mem_pqClear hn)⟩

/-- A result is stored over another that is not cleared, or the pointer to it is set to `NULL`. -/
theorem accounted_overwrite (hwf : WellFormed m st) (h : Accounted st)
    (hhead : st.stack.head? ≠ some .cleanup) :
    (∀ n < st.obtained, n ∈ st.cleared) ↔ st.result = none := by
  constructor
  · intro hall
    cases hresult : st.result with
    | none => rfl
    | some n => exact absurd (hall n (hwf.result n hresult)) (hwf.held hhead n hresult)
  · intro hnone n hn
    rcases h.2 n hn with hmem | hresult
    · exact hmem
    · rw [hnone] at hresult
      cases hresult

/-- A pointer that is set to `NULL` loses its result. -/
theorem accounted_forget (hwf : WellFormed m st) (h : Accounted st)
    (hhead : st.stack.head? ≠ some .cleanup) :
    Accounted { st with result := none } ↔ st.result = none := by
  rw [← accounted_overwrite hwf h hhead]
  constructor
  · intro hforget n hn
    exact (hforget.2 n hn).resolve_right nofun
  · exact fun hall => ⟨h.1, fun n hn => .inl (hall n hn)⟩

/-- A result that is stored over another loses the other. -/
theorem accounted_store (hwf : WellFormed m st) (h : Accounted st)
    (hhead : st.stack.head? ≠ some .cleanup) : Accounted st.store ↔ st.result = none := by
  rw [← accounted_overwrite hwf h hhead]
  constructor
  · intro hstore n hn
    refine (hstore.2 n (Nat.lt_succ_of_lt hn)).resolve_right fun heq => ?_
    exact Nat.ne_of_lt hn (Option.some.inj heq).symm
  · intro hall
    refine ⟨h.1, fun n hn => ?_⟩
    rcases Nat.lt_succ_iff_lt_or_eq.1 hn with hlt | rfl
    · exact .inl (hall n hlt)
    · exact .inr rfl

/-- The results that are drained are new. -/
theorem Accounted.drain (hwf : WellFormed m st) (h : Accounted st) (drained : Nat) :
    ((List.range' st.obtained drained).reverse ++ st.cleared).Nodup ∧
      ∀ n < st.obtained + drained,
        n ∈ (List.range' st.obtained drained).reverse ++ st.cleared ∨ st.result = some n := by
  constructor
  · refine (List.nodup_reverse.2 (List.nodup_range' (n := drained))).append h.1 fun n hn hmem => ?_
    rw [List.mem_reverse, List.mem_range'_1] at hn
    exact absurd (hwf.cleared n hmem) (Nat.not_lt.2 hn.1)
  · intro n hn
    by_cases hlt : n < st.obtained
    · exact (h.2 n hlt).imp_left (List.mem_append_right _)
    · have hnew := List.mem_range'_1.2 ⟨Nat.le_of_not_lt hlt, hn⟩
      exact .inl (List.mem_append_left _ (List.mem_reverse.2 hnew))

/-! ## Which steps keep the results -/

/-- Away from the loop over the results nothing more is asked. -/
theorem Accounted.sound (h : Accounted st) (hpoint : st.point ≠ .results) : Sound st :=
  ⟨h, fun heq => absurd heq hpoint⟩

/-- Away from the loop over the results a sound state is one that accounts for its results. -/
theorem sound_iff (hpoint : st.point ≠ .results) : Sound st ↔ Accounted st :=
  ⟨fun h => h.accounted, fun h => h.sound hpoint⟩

/-- A callback that is called changes no result. -/
theorem accounted_tailCb (hwf : WellFormed m st) : Accounted (tailCb m st) ↔ Accounted st := by
  rw [tailCb_eq fun hrequest => (hwf.request hrequest).1]
  exact Iff.rfl

/-- A report changes no result. -/
theorem accounted_report (hwf : WellFormed m st) (next : Return) :
    Accounted (report m st next) ↔ Accounted st := by
  unfold report
  split
  · exact accounted_tailCb hwf
  · exact Iff.rfl

/-- The call ends in the event loop or in the callback. -/
theorem sound_tailCb (hwf : WellFormed m st) : Sound (tailCb m st) ↔ Accounted st := by
  rw [tailCb_eq fun hrequest => (hwf.request hrequest).1]
  refine sound_iff ?_
  dsimp only
  split <;> decide

/-- A report leaves the loop over the results. -/
theorem sound_report (hwf : WellFormed m st) (next : Return) :
    Sound (report m st next) ↔ Accounted st := by
  unfold report
  split
  · exact sound_tailCb hwf
  · exact sound_iff nofun

/-- A return is sound if the query has no result. -/
theorem sound_goOn_of_none {stack : List Return} (h : Accounted st) (hnone : st.result = none) :
    Sound (goOn stack st) := by
  induction stack generalizing st with
  | nil => exact Accounted.sound h nofun
  | cons frame rest ih =>
      cases frame with
      | user => exact Accounted.sound h nofun
      | notifies => exact Accounted.sound h nofun
      | results => exact ⟨h, fun _ => hnone⟩
      | tuples =>
          refine ⟨⟨nodup_pqClear.2 ⟨h.1, fun n hn => ?_⟩, fun _ hn => .inl (h.mem_pqClear hn)⟩,
            fun _ => rfl⟩
          rw [hnone] at hn
          cases hn
      | cleanup =>
          refine ih ⟨h.1, fun n hn => ?_⟩ rfl
          have hkept := h.2 n hn
          rwa [hnone] at hkept

/-- A callback returns into the loop over the results, which stores the next one. -/
theorem sound_goOn (hwf : WellFormed m st) (h : Accounted st) :
    Sound (goOn st.stack st) ↔ (st.stack.head? = some .results → st.result = none) := by
  cases hstack : st.stack with
  | nil => exact iff_of_true (Accounted.sound h nofun) nofun
  | cons frame rest =>
      cases frame with
      | user => exact iff_of_true (Accounted.sound h nofun) nofun
      | notifies => exact iff_of_true (Accounted.sound h nofun) nofun
      | results =>
          constructor
          · exact fun hsound _ => hsound.results rfl
          · exact fun hnone => ⟨h, fun _ => hnone rfl⟩
      | tuples =>
          have hhead : st.stack.head? ≠ some .cleanup := by
            rw [hstack]
            exact nofun
          have hclear := h.clear hwf hhead
          exact iff_of_true ⟨hclear, fun _ => rfl⟩ nofun
      | cleanup =>
          have hcleaning := hwf.cleaning (by rw [hstack]; rfl)
          have hall : Accounted { st with result := none, conn := false, stack := rest } :=
            ⟨h.1, fun n hn => .inl ((h.2 n hn).elim id (hcleaning.2 n))⟩
          have hsound : Sound (goOn rest { st with result := none, conn := false, stack := rest }) :=
            sound_goOn_of_none hall rfl
          exact iff_of_true hsound nofun

/-- In the loop, the results without a report are those that are lost. -/
theorem sound_getResult (hwf : WellFormed m st) (h : Sound st) (hpoint : st.point = .results)
    (hconn : st.conn = true) (status : Option ResultStatus) :
    Sound (getResult m st status) ↔ Keeps m st (.getResult status) := by
  have hnone := h.results hpoint
  have hstore : Accounted st.store := (accounted_store hwf h.accounted (hwf.head_ne hconn)).2 hnone
  have hstored := hwf.store hconn
  have hlost : ¬ Sound st.store := fun hsound => nomatch hsound.results hpoint
  unfold getResult
  split
  case h_1 =>
    have hforget := (accounted_forget hwf h.accounted (hwf.head_ne hconn)).2 hnone
    exact iff_of_true ((sound_tailCb (hwf.forget.setState hconn .done st.scheduled)).2 hforget) trivial
  case h_2 | h_3 | h_4 | h_5 => exact iff_of_false hlost fun hkeeps => by simp [Keeps] at hkeeps
  case h_6 =>
    exact iff_of_true ((sound_report (hstored.setState hconn .commandok st.scheduled) .results).2 hstore)
      (by simp [Keeps])
  case h_7 | h_8 =>
    exact iff_of_true ((sound_report (hstored.setState hconn .result st.scheduled) .tuples).2 hstore)
      (by simp [Keeps])
  case h_9 | h_10 | h_11 =>
    exact iff_of_true ((sound_report (hstored.setState hconn .error st.scheduled) .results).2 hstore)
      (by simp [Keeps])

/-- The loop over the results begins with the result of the last time, if it is still there. -/
theorem sound_notifies (h : Accounted st) (hpoint : st.point = .notifies) (notify : Bool) :
    Sound (notifies m st notify) ↔ Keeps m st (.notify notify) := by
  unfold notifies Keeps
  cases notify with
  | true =>
      refine iff_of_true ?_ nofun
      rw [if_pos rfl]
      split
      · exact Accounted.sound h (by rw [hpoint]; decide)
      · exact Accounted.sound h nofun
  | false =>
      constructor
      · exact fun hsound _ => hsound.results rfl
      · exact fun hnone => ⟨h, fun _ => hnone rfl⟩

/-- Nothing is stored before the notifications. -/
theorem sound_consumeInput (hwf : WellFormed m st) (h : Accounted st) (hconn : st.conn = true)
    (answer : Answer) : Sound (consumeInput m st answer) := by
  unfold consumeInput
  split
  · exact (sound_tailCb (hwf.setState hconn .error st.scheduled)).2 h
  · split
    · exact (sound_tailCb (hwf.setState hconn .wait st.scheduled)).2 h
    · exact Accounted.sound h nofun

/-- A synchronous query stores its result over the last one. -/
theorem sound_query (hwf : WellFormed m st) (h : Accounted st) (hcall : st.mayCall)
    (executed : Option ResultStatus) (sent : Bool) :
    Sound (korePgsqlQuery m st executed sent) ↔ Keeps m st (.query executed sent) := by
  have hpoint : st.point ≠ .results := by
    rcases hcall with heq | heq <;> rw [heq] <;> decide
  unfold korePgsqlQuery Keeps
  split
  case isTrue hconn =>
    refine iff_of_true (Accounted.sound h hpoint) fun _ hconn' => ?_
    exact absurd (hconn.symm.trans hconn') nofun
  case isFalse hnot =>
    have hconn : st.conn = true := Bool.eq_true_of_not_eq_false hnot
    have hstore := accounted_store hwf h (hwf.head_ne hconn)
    split
    case isTrue hsync =>
      have hkeeps : (m.sync = true → st.conn = true → st.result = none) ↔ st.result = none :=
        ⟨fun hkeeps => hkeeps hsync hconn, fun hnone _ _ => hnone⟩
      rw [hkeeps]
      split
      · rw [← accounted_forget hwf h (hwf.head_ne hconn)]
        exact sound_iff hpoint
      · rw [← hstore]
        split
        · exact sound_iff hpoint
        · exact sound_iff hpoint
    case isFalse hasync =>
      refine iff_of_true ?_ fun hsync => absurd hsync hasync
      split
      · exact (sound_tailCb ((hwf.enter hconn).setState hconn .wait true)).2 h
      · exact Accounted.sound h hpoint

/-- A second `kore_pgsql_cleanup` in the callback of the first clears the same result again. -/
theorem sound_cleanup (hwf : WellFormed m st) (h : Accounted st) (hcall : st.mayCall) (drained : Nat) :
    Sound (korePgsqlCleanup m st drained) ↔ Keeps m st (.cleanup drained) := by
  have hpoint : st.point ≠ .results := by
    rcases hcall with heq | heq <;> rw [heq] <;> decide
  cases hconn : st.conn with
  | false =>
      rw [korePgsqlCleanup_of_not_conn hwf hcall hconn]
      have hsound : Sound { st.pqClear with result := none } ↔
          Accounted { st.pqClear with result := none } := sound_iff hpoint
      rw [hsound]
      constructor
      · intro hclear hhead
        have hfresh := (nodup_pqClear.1 hclear.1).2
        cases hresult : st.result with
        | none => rfl
        | some n => exact absurd ((hwf.cleaning hhead).2 n hresult) (hfresh n hresult)
      · intro hkeeps
        refine ⟨nodup_pqClear.2 ⟨h.1, fun n hn => ?_⟩, fun n hn => .inl (h.mem_pqClear hn)⟩
        by_cases hhead : st.stack.head? = some .cleanup
        · rw [hkeeps hhead] at hn
          cases hn
        · exact hwf.held hhead n hn
  | true =>
      have hclear := (h.clear hwf (hwf.head_ne hconn)).drain hwf.clear drained
      rw [korePgsqlCleanup_of_conn hwf hconn]
      refine iff_of_true (Accounted.sound ⟨hclear.1, fun n hn => ?_⟩ ?_)
        fun hhead => absurd hhead (hwf.head_ne hconn)
      · exact .inl ((hclear.2 n hn).resolve_right nofun)
      · dsimp only
        split <;> decide

/-- `kore_pgsql_continue` clears the result, and never loses one. -/
theorem sound_continue (hwf : WellFormed m st) (h : Accounted st) (hcall : st.mayCall) {drained : Nat}
    (hcontinue : korePgsqlContinue m st drained = some st') : Sound st' := by
  have hpoint : st.point ≠ .results := by
    rcases hcall with heq | heq <;> rw [heq] <;> decide
  have hhead : st.stack.head? ≠ some .cleanup := by
    intro hhead
    obtain ⟨hconn, -⟩ := hwf.cleaning hhead
    unfold korePgsqlContinue at hcontinue
    dsimp only at hcontinue
    have hconn' : ¬ (st.pqClear.conn = true ∧ ¬ m.sync = true) := fun hboth =>
      absurd (hconn.symm.trans hboth.1) nofun
    rcases hwf.released hconn with hstate | hstate
    · rw [show st.pqClear.state = .complete from hstate] at hcontinue
      cases hcontinue
    · rw [show st.pqClear.state = .error from hstate] at hcontinue
      dsimp only at hcontinue
      rw [if_neg hconn'] at hcontinue
      cases hcontinue
  have hclear := h.clear hwf hhead
  unfold korePgsqlContinue at hcontinue
  dsimp only at hcontinue
  split at hcontinue
  case h_1 | h_2 =>
    cases hcontinue
    exact hclear.sound hpoint
  case h_3 hstate =>
    cases hcontinue
    have hconn := hwf.clear.conn_of_done hstate
    have henter := hwf.clear.enter hconn
    unfold connRelease
    rw [if_pos (by exact hconn)]
    exact (sound_tailCb (henter.drain hconn drained)).2 (Accounted.drain henter hclear drained)
  case h_4 | h_5 | h_6 | h_7 =>
    split at hcontinue
    case isTrue =>
      cases hcontinue
      exact Accounted.sound hclear nofun
    case isFalse => cases hcontinue
  case h_8 => cases hcontinue

/-- **Step of the results.** -/
theorem sound_step_iff (hwf : WellFormed m st) (h : Sound st) {ev : Ev}
    (hstep : step m st ev = some st') : Sound st' ↔ Keeps m st ev := by
  cases ev with
  | query executed sent =>
      obtain ⟨hcall, heq⟩ := Option.ite_none_right_eq_some.1 hstep
      cases heq
      exact sound_query hwf h.accounted hcall executed sent
  | «continue» drained =>
      obtain ⟨hcall, hcontinue⟩ := Option.ite_none_right_eq_some.1 hstep
      exact iff_of_true (sound_continue hwf h.accounted hcall hcontinue) trivial
  | cleanup drained =>
      obtain ⟨hcall, heq⟩ := Option.ite_none_right_eq_some.1 hstep
      cases heq
      exact sound_cleanup hwf h.accounted hcall drained
  | ret =>
      obtain ⟨-, heq⟩ := Option.ite_none_right_eq_some.1 hstep
      cases heq
      exact sound_goOn hwf h.accounted
  | ready =>
      obtain ⟨-, heq⟩ := Option.ite_none_right_eq_some.1 hstep
      cases heq
      exact iff_of_true (Accounted.sound h.accounted nofun) trivial
  | error =>
      obtain ⟨⟨hloop, -⟩, heq⟩ := Option.ite_none_right_eq_some.1 hstep
      cases heq
      exact iff_of_true (Accounted.sound h.accounted (by rw [hloop]; decide)) trivial
  | input answer =>
      obtain ⟨⟨-, hconn⟩, heq⟩ := Option.ite_none_right_eq_some.1 hstep
      cases heq
      exact iff_of_true (sound_consumeInput hwf h.accounted hconn answer) trivial
  | notify notify =>
      obtain ⟨⟨hpoint, -⟩, heq⟩ := Option.ite_none_right_eq_some.1 hstep
      cases heq
      exact sound_notifies h.accounted hpoint notify
  | getResult status =>
      obtain ⟨⟨hpoint, hconn⟩, heq⟩ := Option.ite_none_right_eq_some.1 hstep
      cases heq
      exact sound_getResult hwf h hpoint hconn status

/-- A round of the loop loses a result that is in `pgsql->result`. -/
theorem accounted_getResult (hwf : WellFormed m st) (h : Accounted st) (hconn : st.conn = true)
    (status : Option ResultStatus) (hkept : Accounted (getResult m st status)) : st.result = none := by
  have hhead := hwf.head_ne hconn
  have hstored := hwf.store hconn
  unfold getResult at hkept
  split at hkept
  case h_1 =>
    exact (accounted_forget hwf h hhead).1
      ((accounted_tailCb (hwf.forget.setState hconn .done st.scheduled)).1 hkept)
  case h_2 | h_3 | h_4 | h_5 => exact (accounted_store hwf h hhead).1 hkept
  case h_6 =>
    exact (accounted_store hwf h hhead).1
      ((accounted_report (hstored.setState hconn .commandok st.scheduled) .results).1 hkept)
  case h_7 | h_8 =>
    exact (accounted_store hwf h hhead).1
      ((accounted_report (hstored.setState hconn .result st.scheduled) .tuples).1 hkept)
  case h_9 | h_10 | h_11 =>
    exact (accounted_store hwf h hhead).1
      ((accounted_report (hstored.setState hconn .error st.scheduled) .results).1 hkept)

/-- At `PQgetResult` nothing else can happen. -/
theorem exists_getResult {ev : Ev} (hpoint : st.point = .results) (hstep : step m st ev = some st') :
    ∃ status, st.conn = true ∧ st' = getResult m st status := by
  have hcall : ¬ st.mayCall := by
    unfold St.mayCall
    rw [hpoint]
    decide
  unfold step at hstep
  split at hstep
  case h_9 status =>
    obtain ⟨⟨-, hconn⟩, heq⟩ := Option.ite_none_right_eq_some.1 hstep
    exact ⟨status, hconn, (Option.some.inj heq).symm⟩
  all_goals
    obtain ⟨hwhen, -⟩ := Option.ite_none_right_eq_some.1 hstep
    simp [hpoint, hcall] at hwhen

/-- **When no result is lost or cleared twice.** It is so in every state of a run whose steps all meet the
condition. A run that does not meet it loses a result or clears one twice, at the latest when the code is
back in the event loop. -/
theorem accounted_of_keeps (m : Mode) {evs : List Ev} (h : Machine.exec (step m) {} evs = some st) :
    (Machine.Meets (step m) (Keeps m) {} evs → Machine.Always (step m) Accounted {} evs) ∧
    (st.point = .loop → Machine.Always (step m) Accounted {} evs →
      Machine.Meets (step m) (Keeps m) {} evs) := by
  have hsound : Machine.Always (step m) Sound {} evs ↔ Machine.Meets (step m) (Keeps m) {} evs :=
    Machine.always_iff_meets (fun _ _ _ hwf hstep => WellFormed.step hwf hstep)
      (fun _ _ _ hwf hs hstep => sound_step_iff hwf hs hstep) h wellFormed_new
      ⟨⟨List.nodup_nil, nofun⟩, nofun⟩
  constructor
  · exact fun hkeeps pre st₁ hpre hst₁ => (hsound.2 hkeeps pre st₁ hpre hst₁).accounted
  · intro hloop hall
    refine hsound.1 fun pre st₁ hpre hst₁ => ⟨hall pre st₁ hpre hst₁, fun hpoint => ?_⟩
    by_contra hresult
    obtain ⟨post, rfl⟩ := hpre
    obtain ⟨st₂, hst₂, hrest⟩ := Machine.exec_append.1 h
    cases hst₁.symm.trans hst₂
    cases post with
    | nil =>
        cases hrest
        exact absurd (hpoint.symm.trans hloop) nofun
    | cons ev post =>
        obtain ⟨st₃, hstep, hst₃⟩ := Machine.exec_cons.1 hrest
        have hwf := Machine.exec_inv (fun _ _ _ hwf hstep => WellFormed.step hwf hstep) hst₁
          (wellFormed_new (m := m))
        obtain ⟨status, hconn, rfl⟩ := exists_getResult hpoint hstep
        refine hresult (accounted_getResult hwf (hall pre st₁ (List.prefix_append _ _) hst₁) hconn
          status (hall (pre ++ [ev]) _ ⟨post, ?_⟩ ?_))
        · rw [List.append_assoc, List.singleton_append]
        · exact Machine.exec_append.2 ⟨st₁, hst₁, Machine.exec_cons.2 ⟨_, hstep, rfl⟩⟩

/-- Rows for a callback that continues on `DONE` and cleans up on `COMPLETE`. -/
theorem accounted_of_keeps_tuples : Machine.Always (step { request := false, sync := false }) Accounted {}
    [.query none true, .ret, .ready, .input {}, .notify false, .getResult (some .tuplesOk), .ret,
      .getResult none, .continue 0, .cleanup 0, .ret, .ret] :=
  (accounted_of_keeps _ rfl).1 (by decide)

/-- A callback that only returns when it is called for `PGRES_COMMAND_OK` loses the result. A callback that
calls `kore_pgsql_cleanup` for rows, and again when that calls it, clears the result twice. -/
theorem command_lost_and_rows_cleared_twice :
    ¬ Machine.Always (step { request := false, sync := false }) Accounted {}
      [.query none true, .ret, .ready, .input {}, .notify false, .getResult (some .commandOk), .ret,
        .getResult none, .ret] ∧
    ¬ Machine.Always (step { request := false, sync := false }) Accounted {}
      [.query none true, .ret, .ready, .input {}, .notify false, .getResult (some .tuplesOk),
        .cleanup 0, .cleanup 0] :=
  ⟨fun hall => absurd (hall _ _ (List.prefix_refl _) rfl) (by decide),
    fun hall => absurd (hall _ _ (List.prefix_refl _) rfl) (by decide)⟩

end

end KoreWebsocket.Pgsql.Results
