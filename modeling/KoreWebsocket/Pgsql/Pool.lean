import Mathlib
import KoreWebsocket.Lib.Machine
import KoreWebsocket.Pgsql.Query

/-!
# The connection pool of the pgsql client (`websocket_13/pgsql.c`)

The pool keeps the registered databases, the free connections and the queue of the `kore_pgsql`
that wait for one. Its functions call user callbacks in the middle of their work: `pgsql_conn_release`
when the connection is back in the pool, and `pgsql_queue_wakeup` for the first waiter. A callback
may use its own `kore_pgsql` again. So the functions are cut at the callbacks: a call that is not
over leaves a `Frame`, and the event `ret` runs the code after the frame on top. While the stack is
not empty only the callback on top can act; the event loop acts on an empty stack.

libpq is in the events: the transaction status of a connection, the outcome of the `ROLLBACK`, of a
connection attempt and of a query. What it reports to `kore_pgsql_handle` is any sequence of states
(`Ev.report`). An event that makes the code dereference `NULL` or call `fatal` is not enabled.
`destroyed` is a ghost, the connections `pgsql_conn_cleanup` has freed. `w` is the width in bits of
`conn_count`, which the header `pgsql.h` declares.
-/

namespace KoreWebsocket.Pgsql.Pool

/-- `struct pgsql_db`. -/
structure Db where
  name : String
  connCount : Nat := 0
  connMax : Nat
  deriving DecidableEq, Repr

/-- `struct pgsql_conn`: its database's name, the flag `PGSQL_CONN_FREE`, the `kore_pgsql` of its
job, and whether its socket is watched for reading. -/
structure Conn where
  name : String
  free : Bool := true
  job : Option Nat := none
  watched : Bool := false
  deriving DecidableEq, Repr

/-- What a `kore_pgsql` is bound to. -/
inductive Bound
  | unbound | request | callback
  deriving DecidableEq, Repr

/-- `struct kore_pgsql`. `deleted` is `HTTP_REQUEST_DELETE` of its request. -/
structure Pg where
  bound : Bound := .unbound
  deleted : Bool := false
  conn : Option Nat := none
  async : Bool := false
  sync : Bool := false
  scheduled : Bool := false
  state : PgState := .init
  error : Option String := none
  deriving DecidableEq, Repr

/-- A call suspended in a callback, or one that is still to do something. -/
inductive Frame
  /-- the callback of a `kore_pgsql` -/
  | user (p : Nat)
  /-- `pgsql_conn_next` at `rescan`, for `kore_pgsql_setup` -/
  | next (p : Nat) (db : String)
  /-- `pgsql_conn_next` after `kore_pgsql_cleanup(&rollback)`, and whether the `ROLLBACK` failed -/
  | rolled (c : Nat) (failed : Bool)
  /-- `pgsql_conn_release` after its callback -/
  | releaseTail
  /-- `pgsql_queue_wakeup` after its callback, with the entry it woke -/
  | wakeTail (ticket : Nat)
  /-- `kore_pgsql_cleanup` after `pgsql_conn_release` -/
  | cleanupTail (p : Nat)
  /-- `kore_pgsql_handle` while it reads results -/
  | handle (p : Nat)
  deriving DecidableEq, Repr

/-- The pool. Connections and queue entries are numbered in the order of their allocation; a
connection that has been freed is `none`. -/
structure St where
  dbs : List Db := []
  conns : Nat → Option Conn := fun _ => none
  fresh : Nat := 0
  free : List Nat := []
  pgs : Nat → Pg
  waitq : List (Nat × Nat) := []
  tickets : Nat := 0
  queueCount : UInt32 := 0
  queueLimit : UInt32 := 1000
  stack : List Frame := []
  destroyed : List Nat := []

namespace St

/-- Write a `kore_pgsql`. -/
def setPg (st : St) (p : Nat) (v : Pg) : St := { st with pgs := Function.update st.pgs p v }

/-- Write a connection. -/
def setConn (st : St) (c : Nat) (v : Option Conn) : St :=
  { st with conns := Function.update st.conns c v }

/-- Leave a frame. -/
def push (st : St) (f : Frame) : St := { st with stack := f :: st.stack }

/-- `pgsql_set_error`. -/
def setError (st : St) (p : Nat) (msg : String) : St :=
  st.setPg p { st.pgs p with error := some msg, state := .error }

/-- `if (pgsql->cb != NULL) pgsql->cb(pgsql, pgsql->arg)`. -/
def callCb (st : St) (p : Nat) : St :=
  if (st.pgs p).bound = .callback then st.push (.user p) else st

/-- `pgsql_queue_add`. -/
def queueAdd (st : St) (p : Nat) : St :=
  { st with waitq := st.waitq ++ [(st.tickets, p)], tickets := st.tickets + 1
            queueCount := st.queueCount + 1 }

/-- `pgsql_queue_remove`: the first entry of the `kore_pgsql`. -/
def queueRemove (st : St) (p : Nat) : St :=
  if st.waitq.any (·.2 == p) then
    { st with waitq := st.waitq.eraseP (·.2 == p), queueCount := st.queueCount - 1 }
  else st

/-- `pgsql_queue_wakeup` up to the callback: the entries of deleted requests go, and the first of
the others is woken. -/
def queueWakeup (st : St) : St :=
  let rest := st.waitq.dropWhile fun e =>
    (st.pgs e.2).bound == .request && (st.pgs e.2).deleted
  let st := { st with
    waitq := rest
    queueCount := st.queueCount - UInt32.ofNat (st.waitq.length - rest.length) }
  match rest with
  | [] => st
  | (t, p) :: tail =>
      if (st.pgs p).bound = .callback then (st.push (.wakeTail t)).push (.user p)
      else { st with waitq := tail, queueCount := st.queueCount - 1 }

/-- `pgsql_conn_release` up to its callback. -/
def connRelease (st : St) (p : Nat) : St :=
  match (st.pgs p).conn with
  | none => st
  | some c =>
      let st := st.setConn c ((st.conns c).map fun k =>
        { k with job := none, free := true
                 watched := k.watched && !((st.pgs p).async && (st.pgs p).scheduled) })
      let st := { st with free := st.free ++ [c] }
      let st := st.setPg p { st.pgs p with conn := none, state := .complete }
      (st.push .releaseTail).callCb p

/-- The loop over the databases in `pgsql_conn_cleanup`: the first one whose name is not the
connection's loses a connection. -/
def decrement (w : Nat) (name : String) : List Db → List Db
  | [] => []
  | db :: dbs =>
      if db.name ≠ name then { db with connCount := (db.connCount + 2 ^ w - 1) % 2 ^ w } :: dbs
      else db :: decrement w name dbs

/-- `pgsql_conn_cleanup`. -/
def connCleanup (w : Nat) (st : St) (c : Nat) : St :=
  match st.conns c with
  | none => { st with destroyed := c :: st.destroyed }
  | some k =>
      let st := if k.free then { st with free := st.free.erase c } else st
      let st := match k.job with
        | none => st
        | some p =>
            (st.setPg p { st.pgs p with conn := none }).setError p "PQerrorMessage"
      { st.setConn c none with
        dbs := decrement w k.name st.dbs
        destroyed := c :: st.destroyed }

/-- The end of `kore_pgsql_setup`: store the connection, with a job if the query is asynchronous. -/
def storeConn (st : St) (p c : Nat) : St :=
  let st := st.setConn c ((st.conns c).map fun k =>
    { k with free := false, job := if (st.pgs p).async then some p else k.job })
  let st := { st with free := st.free.erase c }
  st.setPg p { st.pgs p with conn := some c }

/-- `pgsql_conn_create` up to the attempt to connect. -/
def connCreate (w : Nat) (st : St) (db : String) : St :=
  { st.setConn st.fresh (some { name := db }) with
    dbs := st.dbs.map fun d =>
      if d.name = db then { d with connCount := (d.connCount + 1) % 2 ^ w } else d
    fresh := st.fresh + 1
    free := st.free ++ [st.fresh] }

end St

/-- What libpq says in one pass of `pgsql_conn_next`: the transaction status of the connection
found, the outcome of its `ROLLBACK` and of an attempt to connect. -/
structure Scan where
  inError : Bool := false
  rollbackOk : Bool := true
  connectOk : Bool := true
  deriving DecidableEq, Repr

/-- One pass of `pgsql_conn_next` from `rescan`, and the end of `kore_pgsql_setup` when it returns.
The frame has been taken off the stack. -/
def scan (w : Nat) (st : St) (p : Nat) (db : String) (o : Scan) : Option St :=
  match st.free.find? (fun c => (st.conns c).any (·.name == db)) with
  | some c =>
      if o.inError then
        -- `rollback` takes the connection, and `kore_pgsql_cleanup(&rollback)` gives it back
        let st := st.setConn c ((st.conns c).map fun k => { k with job := none, free := true })
        let st := { st with free := st.free.erase c ++ [c] }
        some ((st.push (.next p db)).push (.rolled c !o.rollbackOk)).queueWakeup
      else some (st.storeConn p c)
  | none =>
      match st.dbs.find? (·.name == db) with
      | none => none
      | some d =>
          if d.connMax ≠ 0 ∧ d.connCount ≥ d.connMax then
            let st' := if (st.pgs p).async ∧ st.queueCount < st.queueLimit then st.queueAdd p
              else st.setError p "no available connection"
            some (st'.setPg p { st'.pgs p with conn := none })
          else
            let c := st.fresh
            let st := st.connCreate w db
            if o.connectOk then some (st.storeConn p c)
            else
              let st := (st.setError p "PQerrorMessage").connCleanup w c
              some (st.setPg p { st.pgs p with conn := none })

/-- What can happen to the pool. -/
inductive Ev
  /-- `kore_pgsql_register`, with the value of `pgsql_conn_max` -/
  | register (name : String) (connMax : Nat)
  /-- the request of a `kore_pgsql` is marked for deletion -/
  | deleteRequest (p : Nat)
  /-- `kore_pgsql_setup` with its flags -/
  | setup (p : Nat) (db : String) (async sync : Bool)
  /-- a pass of `pgsql_conn_next` -/
  | scan (o : Scan)
  /-- `kore_pgsql_query` and whether libpq takes it -/
  | query (p : Nat) (ok : Bool)
  /-- `kore_pgsql_continue` -/
  | continue (p : Nat)
  /-- `kore_pgsql_cleanup` -/
  | cleanup (p : Nat)
  /-- `kore_pgsql_handle` for a readable socket -/
  | ready (c : Nat)
  /-- `kore_pgsql_handle` for an error on the socket -/
  | error (c : Nat)
  /-- `kore_pgsql_handle` reports a state -/
  | report (s : PgState)
  /-- the callback returns, or the call on top goes on -/
  | ret
  deriving DecidableEq, Repr

/-- The event loop, or the callback of this `kore_pgsql`, is in control. -/
def St.mayCall (st : St) (p : Nat) : Bool :=
  match st.stack with
  | [] => true
  | .user q :: _ => q == p
  | _ => false

/-- `kore_pgsql_setup` up to `pgsql_conn_next`. -/
def setup (st : St) (p : Nat) (db : String) (async sync : Bool) : St :=
  if async ∧ sync then st.setError p "invalid query init parameters"
  else if async ∧ (st.pgs p).bound = .unbound then st.setError p "nothing was bound"
  else
    let st := st.setPg p { st.pgs p with
      async := (st.pgs p).async || async, sync := (st.pgs p).sync || sync }
    if st.dbs.any (·.name == db) then st.push (.next p db) else st.setError p "no database found"

/-- `kore_pgsql_query`. -/
def query (st : St) (p : Nat) (ok : Bool) : St :=
  match (st.pgs p).conn with
  | none => st.setError p "no connection was set before query"
  | some c =>
      if !ok then st.setError p "PQerrorMessage"
      else if (st.pgs p).sync then st.setPg p { st.pgs p with state := .done }
      else
        -- `pgsql_schedule`
        let st := st.setConn c ((st.conns c).map fun k => { k with watched := true })
        (st.setPg p { st.pgs p with state := .wait, scheduled := true }).callCb p

/-- `kore_pgsql_continue`. -/
def korePgsqlContinue (st : St) (p : Nat) : Option St :=
  let st := st.setPg p { st.pgs p with error := none }
  match (st.pgs p).state with
  | .init | .wait => some st
  | .done => some (st.connRelease p)
  | .error | .result | .notify | .commandok =>
      ((st.pgs p).conn.bind fun c => (st.conns c).bind (·.job)).map fun q => st.push (.handle q)
  | .complete => none

/-- `kore_pgsql_cleanup` up to the return of `pgsql_conn_release`. -/
def korePgsqlCleanup (st : St) (p : Nat) : St :=
  ((st.queueRemove p).push (.cleanupTail p)).connRelease p

/-- The code after the frame on top of the stack, which has been taken off. -/
def resume (w : Nat) (st : St) : Frame → Option St
  | .user _ => some st
  | .next _ _ => none
  | .rolled c failed => some (if failed then st.connCleanup w c else st)
  | .releaseTail => some st.queueWakeup
  | .wakeTail t =>
      some { st with waitq := st.waitq.filter (·.1 != t), queueCount := st.queueCount - 1 }
  | .cleanupTail p => some (st.setPg p { st.pgs p with conn := none, error := none })
  | .handle _ => some st

/-- One event. -/
def step (w : Nat) (st : St) : Ev → Option St
  | .register name connMax =>
      if st.stack = [] then
        if st.dbs.any (·.name == name) then some st
        else some { st with dbs := { name := name, connMax := connMax } :: st.dbs }
      else none
  | .deleteRequest p =>
      if st.stack = [] then some (st.setPg p { st.pgs p with deleted := true }) else none
  | .setup p db async sync => if st.mayCall p then some (setup st p db async sync) else none
  | .scan o =>
      match st.stack with
      | .next p db :: rest => scan w { st with stack := rest } p db o
      | _ => none
  | .query p ok => if st.mayCall p then some (query st p ok) else none
  | .continue p => if st.mayCall p then korePgsqlContinue st p else none
  | .cleanup p => if st.mayCall p then some (korePgsqlCleanup st p) else none
  | .ready c =>
      if st.stack = [] then
        (st.conns c).bind fun k =>
          if k.watched then k.job.map fun p => st.push (.handle p) else none
      else none
  | .error c =>
      if st.stack = [] ∧ ((st.conns c).any (·.watched)) = true then some (st.connCleanup w c)
      else none
  | .report s =>
      match st.stack with
      | .handle p :: _ => some ((st.setPg p { st.pgs p with state := s }).callCb p)
      | _ => none
  | .ret =>
      match st.stack with
      | [] => none
      | f :: rest => resume w { st with stack := rest } f

/-! ## Reading the state after an operation -/

namespace St

theorem setConn_conns_self (st : St) (c : Nat) (v : Option Conn) : (st.setConn c v).conns c = v :=
  Function.update_self _ _ _

theorem setConn_conns_of_ne (st : St) {c c' : Nat} (v : Option Conn) (h : c' ≠ c) :
    (st.setConn c v).conns c' = st.conns c' :=
  Function.update_of_ne h _ _

theorem setPg_pgs_self (st : St) (p : Nat) (v : Pg) : (st.setPg p v).pgs p = v :=
  Function.update_self _ _ _

theorem setPg_pgs_of_ne (st : St) {p p' : Nat} (v : Pg) (h : p' ≠ p) :
    (st.setPg p v).pgs p' = st.pgs p' :=
  Function.update_of_ne h _ _

theorem connCreate_conns_self (w : Nat) (st : St) (db : String) :
    (st.connCreate w db).conns st.fresh = some { name := db } :=
  Function.update_self _ _ _

theorem connCreate_conns_of_ne (w : Nat) (st : St) (db : String) {c : Nat} (h : c ≠ st.fresh) :
    (st.connCreate w db).conns c = st.conns c :=
  Function.update_of_ne h _ _

/-- Calling a callback only leaves a frame. -/
theorem callCb_eq (st : St) (p : Nat) :
    st.callCb p = { st with
      stack := (if (st.pgs p).bound = .callback then [.user p] else []) ++ st.stack } := by
  rw [callCb]
  split <;> rfl

/-- Waking a waiter changes the queue and the stack only. The frames it leaves are those of a
waiter's callback. -/
theorem queueWakeup_eq (st : St) :
    ∃ (q : List (Nat × Nat)) (n : UInt32) (fs : List Frame),
      st.queueWakeup = { st with waitq := q, queueCount := n, stack := fs ++ st.stack } ∧
      q ⊆ st.waitq ∧ (fs = [] ∨ ∃ t p, (t, p) ∈ st.waitq ∧ fs = [.user p, .wakeTail t]) := by
  rw [queueWakeup]
  dsimp only
  have hsub : st.waitq.dropWhile (fun e => (st.pgs e.2).bound == .request && (st.pgs e.2).deleted) ⊆
      st.waitq := (List.dropWhile_sublist _).subset
  split
  · exact ⟨_, _, [], rfl, hsub, .inl rfl⟩
  · next t p tail hq =>
      have hmem : (t, p) ∈ st.waitq := hsub (by rw [hq]; exact .head _)
      split
      · exact ⟨_, _, [.user p, .wakeTail t], rfl, hsub, .inr ⟨t, p, hmem, rfl⟩⟩
      · refine ⟨_, _, [], rfl, fun x hx => hsub ?_, .inl rfl⟩
        rw [hq]; exact .tail _ hx

/-- `pgsql_conn_release` of a connection: it is free, at the end of the list. -/
theorem connRelease_some (st : St) {p c : Nat} (h : (st.pgs p).conn = some c) :
    st.connRelease p = { st with
      conns := Function.update st.conns c ((st.conns c).map fun k =>
        { k with job := none, free := true
                 watched := k.watched && !((st.pgs p).async && (st.pgs p).scheduled) })
      free := st.free ++ [c]
      pgs := Function.update st.pgs p { st.pgs p with conn := none, state := .complete }
      stack := (if (st.pgs p).bound = .callback then [.user p] else []) ++
        .releaseTail :: st.stack } := by
  rw [connRelease]
  simp only [h, callCb_eq]
  simp [setConn, setPg, push]

end St

/-- The pool after `kore_pgsql_sys_init`, over any `kore_pgsql` without a connection. -/
def IsInit (st : St) : Prop :=
  st.dbs = [] ∧ (∀ c, st.conns c = none) ∧ st.fresh = 0 ∧ st.free = [] ∧
    (∀ p, (st.pgs p).conn = none) ∧ st.waitq = [] ∧ st.stack = [] ∧ st.destroyed = []

/-- The number of live connections that carry the name. -/
def St.liveCount (st : St) (name : String) : Nat :=
  ((Finset.range st.fresh).filter fun c => (st.conns c).any (·.name == name)).card

end KoreWebsocket.Pgsql.Pool
