import KoreWebsocket.Pgsql.Results

/-!
# The functions of a query, step by step

`Query` has the functions of `websocket_13/pgsql.c` whole, with a callback that is a function of what it
has seen, and `Results` has them cut at the callback. What a whole function does is a run of the pieces
(`simulated`), and so is every event of a `Query` (`simulates_step`). What holds of all runs of the pieces
holds of the functions (`held_of_exec`).
-/

namespace KoreWebsocket.Pgsql

open Checked (bind_eq_ok toOption_eq_some)
open Results (Mode Point Return St goOn tailCb)

/-- A query that is owned by a request or a callback, and not synchronous. -/
def Binding.mode (b : Binding) : Mode := { request := b.isRequest, sync := false }

namespace Query

/-- The query between two pieces, when so many results have been read. -/
def toSt (q : Query) (obtained : Nat) (point : Point) (stack : List Return) : St :=
  { state := q.state
    result := q.result.map PGresult.handle
    conn := q.conn
    scheduled := true
    point
    stack
    obtained
    cleared := q.cleared }

/-- The results that the server has are numbered as they will be read. -/
def Numbered (q : Query) (obtained : Nat) : Prop :=
  q.server.map PGresult.handle = List.range' obtained q.server.length

end Query

namespace Results

variable {m : Mode} {st st' st'' : St}

/-- There is a run from one state to another. -/
def Leads (m : Mode) (st st' : St) : Prop := ∃ evs, Machine.exec (step m) st evs = some st'

theorem Leads.refl (st : St) : Leads m st st := ⟨[], rfl⟩

theorem Leads.trans (h : Leads m st st') (h' : Leads m st' st'') : Leads m st st'' := by
  obtain ⟨evs, hexec⟩ := h
  obtain ⟨evs', hexec'⟩ := h'
  exact ⟨evs ++ evs', Machine.exec_append.2 ⟨st', hexec, hexec'⟩⟩

/-- One piece, and those after it. -/
theorem Leads.head {ev : Ev} (h : step m st ev = some st') (h' : Leads m st' st'') : Leads m st st'' := by
  obtain ⟨evs, hexec⟩ := h'
  exact ⟨ev :: evs, Machine.exec_cons.2 ⟨st', h, hexec⟩⟩

/-- A return does not depend on where the code was. -/
theorem goOn_at (stack : List Return) (st : St) (point : Point) (stack' : List Return) :
    goOn stack { st with point, stack := stack' } = goOn stack st := by
  induction stack generalizing st stack' with
  | nil => rfl
  | cons frame rest ih =>
      cases frame with
      | user => rfl
      | notifies => rfl
      | results => rfl
      | tuples => rfl
      | cleanup => exact ih { st with result := none, conn := false, stack := rest } rest

/-- The end of a call does not depend on the point. -/
theorem tailCb_at (st : St) (point : Point) : tailCb m { st with point } = tailCb m st := by
  unfold tailCb
  split
  · exact goOn_at st.stack st point st.stack
  · rfl

end Results

open Results

/-- From one query to another there is a run of the pieces, between two points of the code. -/
def Simulates (b : Binding) (q q' : Query) (source : Nat → St) (target : Nat → St) : Prop :=
  ∀ obtained, q.Numbered obtained →
    ∃ obtained', q'.Numbered obtained' ∧ Leads b.mode (source obtained) (target obtained')

/-- Whole functions with so much fuel are runs of the pieces. -/
structure Simulated (b : Binding) (n : Nat) : Prop where
  callback : ∀ {q q'}, b.isRequest = false → callCb b n q = .ok q' → ∀ stack,
    Simulates b q q' (q.toSt · .user stack) (q'.toSt · .user stack)
  results : ∀ {q q'}, resultLoop b n q = .ok q' → ∀ stack,
    Simulates b q q' (q.toSt · .results stack) fun o => tailCb b.mode (q'.toSt o .results stack)
  notifies : ∀ {q q'}, notifyLoop b n q = .ok q' → ∀ stack,
    Simulates b q q' (q.toSt · .notifies stack) fun o => tailCb b.mode (q'.toSt o .results stack)
  read : ∀ {q q' busy}, pgsqlReadResult b n busy q = .ok q' → q.conn = true → ∀ stack,
    Simulates b q q' (fun o => consumeInput b.mode (q.toSt o .input stack) { busy })
      fun o => tailCb b.mode (q'.toSt o .results stack)
  handle : ∀ {q q'}, korePgsqlHandle b n q = .ok q' → ∀ stack,
    Simulates b q q' (q.toSt · .input stack) fun o => goOn stack (q'.toSt o .loop [])
  release : ∀ {q q'}, pgsqlConnRelease b n q = .ok q' → ∀ point stack,
    Simulates b q q' (fun o => connRelease b.mode (q.toSt o point stack) q.server.length)
      fun o => goOn stack (q'.toSt o .loop [])
  continues : ∀ {q q'}, korePgsqlContinue b n q = .ok q' → ∀ {point stack},
    (point = .loop ∧ stack = [] ∨ point = .user) →
      Simulates b q q' (q.toSt · point stack) (q'.toSt · point stack)
  cleanup : ∀ {q q'}, korePgsqlCleanup b n q = .ok q' → ∀ {point stack},
    (point = .loop ∧ stack = [] ∨ point = .user) →
      Simulates b q q' (q.toSt · point stack) (q'.toSt · point stack)

section
variable {b : Binding} {n : Nat} {q q' q₁ : Query} {source middle target : Nat → St}

theorem Simulates.refl (q : Query) (source : Nat → St) : Simulates b q q source source :=
  fun obtained hnum => ⟨obtained, hnum, .refl _⟩

theorem Simulates.trans (h : Simulates b q q₁ source middle) (h' : Simulates b q₁ q' middle target) :
    Simulates b q q' source target := by
  intro obtained hnum
  obtain ⟨o₁, hnum₁, hleads⟩ := h obtained hnum
  obtain ⟨o₂, hnum₂, hleads'⟩ := h' o₁ hnum₁
  exact ⟨o₂, hnum₂, hleads.trans hleads'⟩

/-- One piece, which reads no result. -/
theorem Simulates.piece (ev : Results.Ev) (hserver : q₁.server = q.server)
    (hstep : ∀ o, Results.step b.mode (source o) ev = some (middle o)) :
    Simulates b q q₁ source middle := by
  intro obtained hnum
  refine ⟨obtained, ?_, Leads.head (hstep obtained) (.refl _)⟩
  unfold Query.Numbered
  rw [hserver]
  exact hnum

/-- A return does not depend on the point, and takes the stack it is given. -/
theorem goOn_toSt (stack : List Return) (q : Query) (o : Nat) (point : Point) (stack' : List Return) :
    goOn stack (q.toSt o point stack') = goOn stack (q.toSt o .loop []) :=
  goOn_at stack (q.toSt o .loop []) point stack'

/-- A request has no callback. -/
theorem callCb_request (hrequest : b.isRequest = true) (hcall : callCb b n q = .ok q') : q' = q := by
  cases n with
  | zero => cases hcall
  | succ n =>
      cases b with
      | request => exact (Except.ok.inj hcall).symm
      | callback acts => cases hrequest

/-- The callback at the end of a call. -/
theorem Simulated.tail (h : Simulated b n) (hcall : callCb b n q = .ok q') (point : Point)
    (stack : List Return) : Simulates b q q' (fun o => tailCb b.mode (q.toSt o point stack))
      fun o => goOn stack (q'.toSt o .loop []) := by
  cases hrequest : b.isRequest with
  | true =>
      have htail : ∀ o, tailCb b.mode (q.toSt o point stack) = goOn stack (q.toSt o .loop []) := by
        intro o
        unfold tailCb
        rw [if_pos (by exact hrequest)]
        exact goOn_toSt stack q o point stack
      rw [callCb_request hrequest hcall, funext htail]
      exact .refl q _
  | false =>
      have htail : ∀ o, tailCb b.mode (q.toSt o point stack) = q.toSt o .user stack := by
        intro o
        unfold tailCb
        rw [if_neg (by exact Bool.eq_false_iff.1 hrequest)]
        rfl
      rw [funext htail]
      refine (h.callback hrequest hcall stack).trans (.piece .ret rfl fun o => ?_)
      exact congrArg some (goOn_toSt stack q' o .user stack)

/-- The callback in the middle of a call, which goes on at a point of its own. -/
theorem Simulated.call (h : Simulated b n) (hrequest : b.isRequest = false)
    (hcall : callCb b n q = .ok q₁) (next : Return) (point : Point) {stack : List Return}
    (hserver : q'.server = q₁.server)
    (hret : ∀ o, goOn (next :: stack) (q₁.toSt o .user (next :: stack)) = q'.toSt o point stack) :
    Simulates b q q' (q.toSt · .user (next :: stack)) (q'.toSt · point stack) :=
  (h.callback hrequest hcall (next :: stack)).trans
    (.piece .ret hserver fun o => congrArg some (hret o))

/-- The calls that a callback makes, one after the other. -/
theorem Simulated.calls (h : Simulated b n) (stack : List Return) {acts : List Act}
    (hcalls : acts.foldlM (fun q act =>
      match act with
      | .continue => korePgsqlContinue b n q
      | .cleanup => korePgsqlCleanup b n q) q = .ok q') :
    Simulates b q q' (q.toSt · .user stack) (q'.toSt · .user stack) := by
  refine Checked.foldlM_inv (I := fun q₁ => Simulates b q q₁ (q.toSt · .user stack) (q₁.toSt · .user stack))
    (fun q₁ act q₂ hsim hcall => hsim.trans ?_) hcalls (.refl q _)
  cases act with
  | «continue» => exact h.continues hcall (.inr rfl)
  | cleanup => exact h.cleanup hcall (.inr rfl)

/-- The callback makes its calls one after the other. -/
theorem Simulated.callback_succ {acts : List PgState → List Act} (h : Simulated (.callback acts) n)
    (hcall : callCb (.callback acts) (n + 1) q = .ok q') (stack : List Return) :
    Simulates (.callback acts) q q' (q.toSt · .user stack) (q'.toSt · .user stack) := by
  have hsame : Simulates (.callback acts) q { q with observed := q.state :: q.observed }
      (q.toSt · .user stack) (q.toSt · .user stack) := fun o hnum => ⟨o, hnum, .refl _⟩
  unfold callCb at hcall
  exact hsame.trans (h.calls stack hcall)

/-- Without a connection there is nothing to release. -/
theorem connRelease_toSt (hconn : q.conn = false) (o : Nat) (point : Point) (stack : List Return)
    (drained : Nat) : connRelease b.mode (q.toSt o point stack) drained =
      goOn stack (q.toSt o .loop []) := by
  unfold connRelease
  rw [if_neg (by exact Bool.eq_false_iff.1 hconn)]
  exact goOn_toSt stack q o point stack

/-- `pgsql_conn_release`: what the server still has is drained in one piece. -/
theorem Simulated.release_succ (h : Simulated b n) (hrelease : pgsqlConnRelease b (n + 1) q = .ok q')
    (point : Point) (stack : List Return) :
    Simulates b q q' (fun o => connRelease b.mode (q.toSt o point stack) q.server.length)
      fun o => goOn stack (q'.toSt o .loop []) := by
  unfold pgsqlConnRelease at hrelease
  split at hrelease
  case isTrue hconn =>
    cases hrelease
    rw [funext fun o => connRelease_toSt hconn o point stack q.server.length]
    exact .refl q _
  case isFalse hconn =>
    intro obtained hnum
    have hdrain : connRelease b.mode (q.toSt obtained point stack) q.server.length =
        tailCb b.mode (Query.toSt
          { q with
            cleared := q.server.reverse.map PGresult.handle ++ q.cleared
            server := []
            conn := false
            state := .complete } (obtained + q.server.length) point stack) := by
      unfold connRelease
      rw [if_pos (by exact Bool.eq_true_of_not_eq_false hconn), Query.toSt, List.map_reverse, hnum]
      rfl
    obtain ⟨o, hnum', hleads⟩ := h.tail hrelease point stack (obtained + q.server.length) rfl
    refine ⟨o, hnum', ?_⟩
    dsimp only
    rw [hdrain]
    exact hleads

/-! ## Calls -/

/-- A call returns to the code that makes it. -/
theorem goOn_entered {point : Point} {stack : List Return}
    (hcall : point = .loop ∧ stack = [] ∨ point = .user) (q : Query) (o : Nat) :
    goOn (q.toSt o point stack).enter.stack (q.toSt o .loop []) = q.toSt o point stack := by
  rcases hcall with ⟨rfl, rfl⟩ | rfl
  · rfl
  · rfl

/-- The event loop or the callback may call. -/
theorem mayCall_toSt {point : Point} {stack : List Return}
    (hcall : point = .loop ∧ stack = [] ∨ point = .user) (q : Query) (o : Nat) :
    (q.toSt o point stack).mayCall := by
  rcases hcall with ⟨rfl, rfl⟩ | rfl
  · exact .inl rfl
  · exact .inr rfl

/-- The result is cleared in both. -/
theorem pqClear_toSt (q : Query) (o : Nat) (point : Point) (stack : List Return) :
    (q.toSt o point stack).pqClear = q.pqClear.toSt o point stack := by
  unfold Query.toSt St.pqClear Query.pqClear
  rw [Option.toList_map]

/-- `kore_pgsql_handle` needs a connection. -/
theorem conn_of_handle (h : korePgsqlHandle b n q = .ok q') : q.conn = true := by
  cases n with
  | zero => cases h
  | succ n =>
      unfold korePgsqlHandle at h
      split at h
      case isTrue => cases h
      case isFalse hconn => exact Bool.eq_true_of_not_eq_false hconn

/-- The query when `kore_pgsql_continue` has cleared its result. -/
theorem cleared_toSt (q : Query) (o : Nat) (point : Point) (stack : List Return) :
    { (q.toSt o point stack).pqClear with result := none } =
      Query.toSt { q.pqClear with error := none, result := none } o point stack := by
  rw [pqClear_toSt]
  rfl

/-- What `kore_pgsql_continue` does, in both models. -/
theorem continue_cases (hcont : korePgsqlContinue b (n + 1) q = .ok q') :
    ∃ q₁ : Query, q₁.server = q.server ∧ q₁.conn = q.conn ∧
      ((q' = q₁ ∧ ∀ o point stack drained,
        Results.korePgsqlContinue b.mode (q.toSt o point stack) drained =
          some (q₁.toSt o point stack)) ∨
      (pgsqlConnRelease b n q₁ = .ok q' ∧ ∀ o point stack drained,
        Results.korePgsqlContinue b.mode (q.toSt o point stack) drained =
          some (connRelease b.mode (q₁.toSt o point (q.toSt o point stack).enter.stack) drained)) ∨
      (korePgsqlHandle b n q₁ = .ok q' ∧ ∀ o point stack drained, q.conn = true →
        Results.korePgsqlContinue b.mode (q.toSt o point stack) drained =
          some (q₁.toSt o .input (q.toSt o point stack).enter.stack))) := by
  unfold korePgsqlContinue at hcont
  unfold Results.korePgsqlContinue
  simp only [cleared_toSt]
  generalize hclear : { q.pqClear with error := none, result := none } = q₀ at hcont ⊢
  have hserver : q₀.server = q.server := by rw [← hclear]; rfl
  have hconn : q₀.conn = q.conn := by rw [← hclear]; rfl
  have hsame : q₀.state = q.state := by rw [← hclear]; rfl
  have htoSt : ∀ o point stack, (q.toSt o point stack).pqClear.state = q.state := fun _ _ _ => rfl
  simp only [hsame] at hcont
  simp only [htoSt]
  cases hstate : q.state with
  | init | wait =>
      rw [hstate] at hcont
      exact ⟨q₀, hserver, hconn, .inl ⟨(Except.ok.inj hcont).symm, fun _ _ _ _ => rfl⟩⟩
  | done =>
      rw [hstate] at hcont
      exact ⟨q₀.setAwake b true, hserver, hconn, .inr (.inl ⟨hcont, fun _ _ _ _ => rfl⟩)⟩
  | error | result | notify | commandok =>
      rw [hstate] at hcont
      refine ⟨q₀, hserver, hconn, .inr (.inr ⟨hcont, fun _ _ _ _ hq => ?_⟩)⟩
      exact if_pos ⟨hq, Bool.false_ne_true⟩
  | complete =>
      rw [hstate] at hcont
      cases hcont

/-- `kore_pgsql_continue`, in each state. -/
theorem Simulated.continues_succ (h : Simulated b n) (hcont : korePgsqlContinue b (n + 1) q = .ok q')
    {point : Point} {stack : List Return} (hcall : point = .loop ∧ stack = [] ∨ point = .user) :
    Simulates b q q' (q.toSt · point stack) (q'.toSt · point stack) := by
  intro obtained hnum
  obtain ⟨q₁, hserver, hconn, hcase⟩ := continue_cases hcont
  have hnum₁ : q₁.Numbered obtained := by
    unfold Query.Numbered
    rw [hserver]
    exact hnum
  have hstep : Results.step b.mode (q.toSt obtained point stack) (.continue q.server.length) =
      Results.korePgsqlContinue b.mode (q.toSt obtained point stack) q.server.length :=
    if_pos (mayCall_toSt hcall q obtained)
  have hback := @goOn_entered point stack hcall q'
  rcases hcase with ⟨rfl, hone⟩ | ⟨hrelease, hone⟩ | ⟨hhandle, hone⟩
  · exact ⟨obtained, hnum₁, .head (hstep.trans (hone ..)) (.refl _)⟩
  · obtain ⟨o, hnum', hleads⟩ := h.release hrelease point (q.toSt obtained point stack).enter.stack
      obtained hnum₁
    refine ⟨o, hnum', .head (hstep.trans (hone ..)) ?_⟩
    rw [← hserver]
    dsimp only
    rw [← hback o]
    exact hleads
  · obtain ⟨o, hnum', hleads⟩ := h.handle hhandle (q.toSt obtained point stack).enter.stack
      obtained hnum₁
    refine ⟨o, hnum', .head (hstep.trans (hone _ _ _ _ ?_)) ?_⟩
    · rw [← hconn]
      exact conn_of_handle hhandle
    · dsimp only
      rw [← hback o]
      exact hleads

/-- `kore_pgsql_cleanup` begins with the release of the connection. -/
theorem cleanup_toSt (q : Query) (o : Nat) (point : Point) (stack : List Return) (drained : Nat) :
    Results.korePgsqlCleanup b.mode (q.toSt o point stack) drained =
      connRelease b.mode (q.pqClear.toSt o point (.cleanup :: (q.toSt o point stack).enter.stack))
        drained := by
  unfold Results.korePgsqlCleanup
  rw [pqClear_toSt]
  rfl

/-- `kore_pgsql_cleanup`: the release, and what it does after the callback. -/
theorem Simulated.cleanup_succ (h : Simulated b n) (hcleanup : korePgsqlCleanup b (n + 1) q = .ok q')
    {point : Point} {stack : List Return} (hcall : point = .loop ∧ stack = [] ∨ point = .user) :
    Simulates b q q' (q.toSt · point stack) (q'.toSt · point stack) := by
  intro obtained hnum
  have hstep : Results.step b.mode (q.toSt obtained point stack) (.cleanup q.server.length) =
      some (connRelease b.mode
        (q.pqClear.toSt obtained point (.cleanup :: (q.toSt obtained point stack).enter.stack))
        q.server.length) :=
    (if_pos (mayCall_toSt hcall q obtained)).trans (congrArg some (cleanup_toSt ..))
  have hback : ∀ (q₁ : Query) o,
      goOn (.cleanup :: (q.toSt obtained point stack).enter.stack) (q₁.toSt o .loop []) =
        Query.toSt { q₁ with result := none, error := none, conn := false } o point stack :=
    fun q₁ o =>
      (goOn_toSt _ { q₁ with result := none, error := none, conn := false } o .loop _).trans
        (goOn_entered hcall _ o)
  unfold korePgsqlCleanup at hcleanup
  dsimp only at hcleanup
  split at hcleanup
  case isTrue =>
    obtain ⟨q₁, hrelease, hdone⟩ := bind_eq_ok.1 hcleanup
    cases hdone
    obtain ⟨o, hnum', hleads⟩ := h.release hrelease point
      (.cleanup :: (q.toSt obtained point stack).enter.stack) obtained hnum
    refine ⟨o, hnum', .head hstep ?_⟩
    dsimp only
    rw [← hback q₁ o]
    exact hleads
  case isFalse hconn =>
    cases hcleanup
    refine ⟨obtained, hnum, .head hstep ?_⟩
    dsimp only
    rw [← hback q.pqClear obtained, connRelease_toSt (by exact Bool.eq_false_iff.2 hconn)]
    exact .refl _

/-! ## Reading -/

/-- `kore_pgsql_handle`: the input is consumed and read, and the call ends. -/
theorem Simulated.handle_succ (h : Simulated b n) (hhandle : korePgsqlHandle b (n + 1) q = .ok q')
    (stack : List Return) :
    Simulates b q q' (q.toSt · .input stack) fun o => goOn stack (q'.toSt o .loop []) := by
  have hconn : q.conn = true := conn_of_handle hhandle
  have hinput : Simulates b q q.answer.2 (q.toSt · .input stack)
      fun o => consumeInput b.mode (q.answer.2.toSt o .input stack) q.answer.1 :=
    .piece (.input q.answer.1) rfl fun o => if_pos ⟨rfl, hconn⟩
  refine hinput.trans ?_
  unfold korePgsqlHandle at hhandle
  rw [if_neg (by rw [hconn]; decide)] at hhandle
  dsimp only at hhandle
  split at hhandle
  case isTrue hconsumed =>
    obtain ⟨q₁, hread, hcall⟩ := bind_eq_ok.1 hhandle
    have hanswer : q.answer.1 = { busy := q.answer.1.busy } := by
      rw [← hconsumed]
    rw [hanswer]
    exact (h.read hread hconn stack).trans (h.tail hcall .results stack)
  case isFalse hconsumed =>
    have hfailed : ∀ o, consumeInput b.mode (q.answer.2.toSt o .input stack) q.answer.1 =
        tailCb b.mode ((q.answer.2.setError "PQconsumeInput").toSt o .input stack) := fun o =>
      if_pos (Bool.eq_false_iff.2 hconsumed)
    rw [funext hfailed]
    exact h.tail hhandle .input stack

/-- `pgsql_read_result`: the notifications and then the results, unless libpq is busy. -/
theorem Simulated.read_succ (h : Simulated b n) {busy : Bool}
    (hread : pgsqlReadResult b (n + 1) busy q = .ok q') (hconn : q.conn = true) (stack : List Return) :
    Simulates b q q' (fun o => consumeInput b.mode (q.toSt o .input stack) { busy })
      fun o => tailCb b.mode (q'.toSt o .results stack) := by
  unfold pgsqlReadResult at hread
  rw [if_neg (by rw [hconn]; decide)] at hread
  cases busy with
  | true =>
      cases hread
      have hwait : ∀ o, consumeInput b.mode (q.toSt o .input stack) { busy := true } =
          tailCb b.mode (Query.toSt { q with state := .wait } o .results stack) := fun o =>
        tailCb_at (Query.toSt { q with state := .wait } o .results stack) .input
      rw [funext hwait]
      exact fun o hnum => ⟨o, hnum, .refl _⟩
  | false => exact h.notifies hread stack

/-- The loop over the notifications, a piece for each. -/
theorem Simulated.notifies_succ (h : Simulated b n) (hnotify : notifyLoop b (n + 1) q = .ok q')
    (stack : List Return) :
    Simulates b q q' (q.toSt · .notifies stack) fun o => tailCb b.mode (q'.toSt o .results stack) := by
  unfold notifyLoop at hnotify
  split at hnotify
  case isTrue => cases hnotify
  case isFalse hfalse =>
    have hconn : q.conn = true := Bool.eq_true_of_not_eq_false hfalse
    split at hnotify
    case h_1 =>
      refine .trans (.piece (.notify false) rfl fun o => ?_) (h.results hnotify stack)
      exact if_pos ⟨rfl, hconn⟩
    case h_2 rest hrest =>
      obtain ⟨q₁, hcall, hnotify⟩ := bind_eq_ok.1 hnotify
      refine .trans ?_ (h.notifies hnotify stack)
      cases hrequest : b.isRequest with
      | true =>
          rw [callCb_request hrequest hcall]
          refine .piece (.notify true) rfl fun o => ?_
          have hnotifies : Results.notifies b.mode (q.toSt o .notifies stack) true =
              Query.toSt { q with notifies := rest, state := .notify } o .notifies stack :=
            if_pos hrequest
          exact (if_pos ⟨rfl, hconn⟩).trans (congrArg some hnotifies)
      | false =>
          refine .trans (.piece (.notify true) rfl fun o => ?_)
            (h.call hrequest hcall .notifies .notifies rfl fun _ => rfl)
          have hnotifies : Results.notifies b.mode (q.toSt o .notifies stack) true =
              Query.toSt { q with notifies := rest, state := .notify } o .user (.notifies :: stack) :=
            if_neg (Bool.eq_false_iff.1 hrequest)
          exact (if_pos ⟨rfl, hconn⟩).trans (congrArg some hnotifies)

/-- A result is read, and stored in the query. -/
theorem Simulates.get {r : PGresult} {rest : List PGresult} (hserver : q.server = r :: rest)
    (hrest : q₁.server = rest)
    (hstep : Results.step b.mode (source r.handle) (.getResult (some r.status)) =
      some (middle (r.handle + 1))) : Simulates b q q₁ source middle := by
  intro obtained hnum
  unfold Query.Numbered at hnum
  rw [hserver, List.length_cons, List.range'_succ, List.map_cons] at hnum
  obtain ⟨hhandle, hnum'⟩ := List.cons.inj hnum
  rw [hhandle] at hstep
  refine ⟨obtained + 1, ?_, .head hstep (.refl _)⟩
  unfold Query.Numbered
  rw [hrest]
  exact hnum'

/-- The rows are cleared when the callback returns. -/
theorem tuples_toSt (q : Query) (o : Nat) (stack : List Return) :
    goOn (.tuples :: stack) (q.toSt o .user (.tuples :: stack)) =
      Query.toSt { q.pqClear with result := none } o .results stack := by
  unfold goOn
  rw [pqClear_toSt]
  rfl

/-- A request returns when a result is read. -/
theorem Simulates.report (hrequest : b.isRequest = true) {r : PGresult} {rest : List PGresult}
    (hserver : q.server = r :: rest) (hrest : q₁.server = rest) (next : Return) {stack : List Return}
    (hstep : Results.step b.mode (q.toSt r.handle .results stack) (.getResult (some r.status)) =
      some (report b.mode (q₁.toSt (r.handle + 1) .results stack) next)) :
    Simulates b q q₁ (q.toSt · .results stack) fun o => tailCb b.mode (q₁.toSt o .results stack) :=
  .get hserver hrest (hstep.trans (congrArg some (if_pos hrequest)))

/-- A callback is called when a result is read, and the loop goes on. -/
theorem Simulated.report (h : Simulated b n) (hrequest : b.isRequest = false) {r : PGresult}
    {rest : List PGresult} (hserver : q.server = r :: rest) {q₁ q₂ q₃ : Query} (hrest : q₁.server = rest)
    (next : Return) {stack : List Return}
    (hstep : Results.step b.mode (q.toSt r.handle .results stack) (.getResult (some r.status)) =
      some (report b.mode (q₁.toSt (r.handle + 1) .results stack) next))
    (hcall : callCb b n q₁ = .ok q₂) (hsame : q₃.server = q₂.server)
    (hret : ∀ o, goOn (next :: stack) (q₂.toSt o .user (next :: stack)) = q₃.toSt o .results stack)
    (hresult : resultLoop b n q₃ = .ok q') :
    Simulates b q q' (q.toSt · .results stack) fun o => tailCb b.mode (q'.toSt o .results stack) := by
  have hread : Simulates b q q₁ (q.toSt · .results stack) (q₁.toSt · .user (next :: stack)) :=
    .get hserver hrest (hstep.trans (congrArg some (if_neg (Bool.eq_false_iff.1 hrequest))))
  exact hread.trans ((h.call hrequest hcall next .results hsame hret).trans (h.results hresult stack))

/-- The loop over the results, a piece for each. -/
theorem Simulated.results_succ (h : Simulated b n) (hresult : resultLoop b (n + 1) q = .ok q')
    (stack : List Return) :
    Simulates b q q' (q.toSt · .results stack) fun o => tailCb b.mode (q'.toSt o .results stack) := by
  unfold resultLoop at hresult
  split at hresult
  case isTrue => cases hresult
  case isFalse hfalse =>
    have hconn : q.conn = true := Bool.eq_true_of_not_eq_false hfalse
    split at hresult
    case h_1 =>
      cases hresult
      have hdone : afterLoop { q with result := none } = { q with result := none, state := .done } := by
        unfold afterLoop
        split <;> rfl
      rw [hdone]
      exact .piece (.getResult none) rfl fun o => if_pos ⟨rfl, hconn⟩
    case h_2 r rest hserver =>
      have hstep : Results.step b.mode (q.toSt r.handle .results stack) (.getResult (some r.status)) =
          some (getResult b.mode (q.toSt r.handle .results stack) (some r.status)) :=
        if_pos ⟨rfl, hconn⟩
      dsimp only at hresult
      cases hstatus : r.status with
      | copyOut | copyIn | nonfatalError | copyBoth =>
          rw [hstatus] at hresult
          refine (Simulates.get hserver ?_ ?_).trans (h.results hresult stack)
          · rfl
          · rw [hstep, hstatus]
            rfl
      | commandOk =>
          rw [hstatus] at hresult
          cases b with
          | request =>
              cases hresult
              refine .report rfl hserver rfl .results ?_
              rw [hstep, hstatus]
              rfl
          | callback acts =>
              obtain ⟨q₁, hcall, hresult⟩ := bind_eq_ok.1 hresult
              refine h.report rfl hserver rfl .results ?_ hcall rfl (fun _ => rfl) hresult
              rw [hstep, hstatus]
              rfl
      | tuplesOk | singleTuple =>
          rw [hstatus] at hresult
          cases b with
          | request =>
              cases hresult
              refine .report rfl hserver rfl .tuples ?_
              rw [hstep, hstatus]
              rfl
          | callback acts =>
              obtain ⟨q₁, hcall, hresult⟩ := bind_eq_ok.1 hresult
              refine h.report rfl hserver rfl .tuples ?_ hcall ?_ (fun o => tuples_toSt q₁ o stack)
                hresult
              · rw [hstep, hstatus]
                rfl
              · rfl
      | emptyQuery | badResponse | fatalError =>
          rw [hstatus] at hresult
          obtain ⟨q₁, hcall, hresult⟩ := bind_eq_ok.1 hresult
          cases b with
          | request =>
              cases hresult
              rw [callCb_request rfl hcall]
              refine .report rfl hserver rfl .results ?_
              rw [hstep, hstatus]
              rfl
          | callback acts =>
              refine h.report rfl hserver rfl .results ?_ hcall rfl (fun _ => rfl) hresult
              rw [hstep, hstatus]
              rfl

end

/-- The functions of a query are runs of the pieces. -/
theorem simulated (b : Binding) (n : Nat) : Simulated b n := by
  induction n with
  | zero =>
      exact {
        callback := fun _ h => nomatch h
        results := fun h => nomatch h
        notifies := fun h => nomatch h
        read := fun h => nomatch h
        handle := fun h => nomatch h
        release := fun h => nomatch h
        continues := fun h => nomatch h
        cleanup := fun h => nomatch h }
  | succ n ih =>
      exact {
        callback := fun hrequest hcall stack => by
          cases b with
          | request => cases hrequest
          | callback acts => exact ih.callback_succ hcall stack
        results := fun h => ih.results_succ h
        notifies := fun h => ih.notifies_succ h
        read := fun h => ih.read_succ h
        handle := fun h => ih.handle_succ h
        release := fun h => ih.release_succ h
        continues := fun h => ih.continues_succ h
        cleanup := fun h => ih.cleanup_succ h }

/-- The socket is readable, and `kore_pgsql_handle` is called. -/
theorem Simulates.ready {b : Binding} {q q' : Query} {answers : List Answer} (hconn : q.conn = true)
    (h : onReady b q answers = .ok q') : Simulates b q q' (q.toSt · .loop []) (q'.toSt · .loop []) := by
  have hready : Simulates b q { q with answers := answers } (q.toSt · .loop [])
      (Query.toSt { q with answers := answers } · .input []) :=
    .piece .ready rfl fun o => if_pos ⟨rfl, hconn, rfl⟩
  exact hready.trans ((simulated b _).handle h [])

/-- The request runs again, and continues unless the query is complete. -/
theorem Simulates.resume {b : Binding} {q q' : Query} {answers : List Answer}
    (h : onResume b q answers = .ok q') : Simulates b q q' (q.toSt · .loop []) (q'.toSt · .loop []) := by
  unfold onResume at h
  dsimp only at h
  split at h
  case isTrue =>
    cases h
    exact fun o hnum => ⟨o, hnum, .refl _⟩
  case isFalse =>
    have hseen : Simulates b q { q with observed := q.state :: q.observed, answers := answers }
        (q.toSt · .loop [])
        (Query.toSt { q with observed := q.state :: q.observed, answers := answers } · .loop []) :=
      fun o hnum => ⟨o, hnum, .refl _⟩
    exact hseen.trans ((simulated b _).continues h (.inl ⟨rfl, rfl⟩))

end KoreWebsocket.Pgsql
