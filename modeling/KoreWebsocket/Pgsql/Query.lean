import KoreWebsocket.Lib.Checked
import KoreWebsocket.Lib.Machine

/-!
# One query of the pgsql client (`websocket_13/pgsql.c`)

`kore_pgsql_handle` runs when the connection's socket is readable; it calls `pgsql_read_result`,
which reads the results libpq has, and then the owner of the query. The owner is a callback or an
HTTP request. A callback is called in the middle of the result loop and may call
`kore_pgsql_continue` or `kore_pgsql_cleanup`, which come back to `kore_pgsql_handle` and to the
callback, so the functions are mutually recursive and take fuel. A request is put to sleep and woken
up, and calls `kore_pgsql_continue` when it runs.

libpq is its documented behaviour: `server` is what `PQgetResult` will return before `NULL`, and
each call of `kore_pgsql_handle` takes the next `Answer`, what `PQconsumeInput` and `PQisBusy` say.
The connection is a flag here, `NULL` when it has been released; `pgsql_queue_wakeup`, which runs
the callbacks of other queries, has no effect on this one. `observed` and `cleared` are ghosts: the
states its owner has seen and the results given to `PQclear`, newest first.
-/

namespace KoreWebsocket.Pgsql

/-- `ExecStatusType` of libpq. -/
inductive ResultStatus
  | emptyQuery | commandOk | tuplesOk | copyOut | copyIn | badResponse | nonfatalError
  | fatalError | copyBoth | singleTuple
  deriving DecidableEq, Repr

/-- A `PGresult`. -/
structure PGresult where
  handle : Nat
  status : ResultStatus
  errorMessage : String := ""
  deriving DecidableEq, Repr

/-- The `KORE_PGSQL_STATE_*` constants. -/
inductive PgState
  | init | wait | result | error | done | complete | notify | commandok
  deriving DecidableEq, Repr

/-- What libpq answers to one call of `kore_pgsql_handle`. -/
structure Answer where
  consumed : Bool := true
  busy : Bool := false
  deriving DecidableEq, Repr

/-- `struct kore_pgsql` with its connection, and what the server still has for it. -/
structure Query where
  state : PgState := .wait
  result : Option PGresult := none
  error : Option String := none
  conn : Bool := true
  awake : Bool := false
  server : List PGresult := []
  notifies : List (String × String) := []
  answers : List Answer := []
  observed : List PgState := []
  cleared : List Nat := []
  deriving DecidableEq, Repr

/-- A call that a callback makes. -/
inductive Act
  | continue
  | cleanup
  deriving DecidableEq, Repr

/-- Who owns the query: a request, or a callback, whose calls depend on the states it has seen so far. -/
inductive Binding
  | request
  | callback (acts : List PgState → List Act)

/-- `pgsql->req != NULL`. -/
def Binding.isRequest : Binding → Bool
  | .request => true
  | .callback _ => false

/-- How a call can fail to return: a dereference of a connection that is not there, a call of
`fatal`, or too little fuel. -/
inductive Stop
  | released
  | fatal (msg : String)
  | fuel
  deriving DecidableEq, Repr

namespace Query

/-- `PQclear`, which does nothing on `NULL`. -/
def pqClear (q : Query) : Query :=
  { q with cleared := q.result.toList.map PGresult.handle ++ q.cleared }

/-- `pgsql_set_error`. -/
def setError (q : Query) (msg : String) : Query := { q with error := some msg, state := .error }

/-- `http_request_wakeup` or `http_request_sleep`, when a request owns the query. -/
def setAwake (b : Binding) (q : Query) (on : Bool) : Query :=
  { q with awake := if b.isRequest then on else q.awake }

/-- Take the next answer; libpq is idle when nothing else is said. -/
def answer (q : Query) : Answer × Query :=
  (q.answers.headD {}, { q with answers := q.answers.tail })

end Query

/-- The code of `pgsql_read_result` after the result loop. -/
def afterLoop (q : Query) : Query :=
  if q.state = .commandok then { q with state := .done }
  else if q.result = none then { q with state := .done }
  else q

variable (b : Binding)

mutual

/-- `if (pgsql->cb != NULL) pgsql->cb(pgsql, pgsql->arg)`. -/
def callCb : Nat → Query → Except Stop Query
  | 0, _ => .error .fuel
  | n + 1, q =>
      match b with
      | .request => .ok q
      | .callback acts =>
          let q := { q with observed := q.state :: q.observed }
          (acts q.observed).foldlM (fun q act =>
            match act with
            | .continue => korePgsqlContinue n q
            | .cleanup => korePgsqlCleanup n q) q

/-- The result loop of `pgsql_read_result` and the code after it. -/
def resultLoop : Nat → Query → Except Stop Query
  | 0, _ => .error .fuel
  | n + 1, q =>
      if q.conn = false then .error .released
      else match q.server with
        | [] => .ok (afterLoop { q with result := none })
        | r :: rest =>
            let q := { q with server := rest, result := some r }
            match r.status with
            | .copyOut | .copyIn | .nonfatalError | .copyBoth => resultLoop n q
            | .commandOk =>
                let q := { q with state := .commandok }
                match b with
                | .request => .ok q
                | .callback _ => do
                    let q ← callCb n q
                    resultLoop n q
            | .tuplesOk | .singleTuple =>
                let q := { q with state := .result }
                match b with
                | .request => .ok q
                | .callback _ => do
                    let q ← callCb n q
                    resultLoop n { q.pqClear with result := none }
            | .emptyQuery | .badResponse | .fatalError => do
                let q ← callCb n (q.setError r.errorMessage)
                match b with
                | .request => .ok q
                | .callback _ => resultLoop n q

/-- The notification loop of `pgsql_read_result`, then the result loop. -/
def notifyLoop : Nat → Query → Except Stop Query
  | 0, _ => .error .fuel
  | n + 1, q =>
      if q.conn = false then .error .released
      else match q.notifies with
        | [] => resultLoop n q
        | _ :: rest => do
            let q ← callCb n { q with notifies := rest, state := .notify }
            notifyLoop n q

/-- `pgsql_read_result`. -/
def pgsqlReadResult : Nat → Bool → Query → Except Stop Query
  | 0, _, _ => .error .fuel
  | n + 1, busy, q =>
      if q.conn = false then .ok q
      else if busy then .ok { q with state := .wait }
      else notifyLoop n q

/-- `kore_pgsql_handle` without an error on the socket. -/
def korePgsqlHandle : Nat → Query → Except Stop Query
  | 0, _ => .error .fuel
  | n + 1, q =>
      if q.conn = false then .error .released
      else
        let (a, q) := q.answer
        do
          let q ← if a.consumed then pgsqlReadResult n a.busy q
            else .ok (q.setError "PQconsumeInput")
          callCb n (q.setAwake b (q.state != .wait))

/-- `kore_pgsql_continue`. -/
def korePgsqlContinue : Nat → Query → Except Stop Query
  | 0, _ => .error .fuel
  | n + 1, q =>
      let q := { q.pqClear with error := none, result := none }
      match q.state with
      | .init | .wait => .ok q
      | .done => pgsqlConnRelease n (q.setAwake b true)
      | .error | .result | .notify | .commandok => korePgsqlHandle n q
      | .complete => .error (.fatal "*** Unknown pgsql state_3 ***")

/-- `pgsql_conn_release`: drain the results, give the connection back and say so. -/
def pgsqlConnRelease : Nat → Query → Except Stop Query
  | 0, _ => .error .fuel
  | n + 1, q =>
      if q.conn = false then .ok q
      else callCb n { q with
        cleared := q.server.reverse.map PGresult.handle ++ q.cleared
        server := []
        conn := false
        state := .complete }

/-- `kore_pgsql_cleanup`. -/
def korePgsqlCleanup : Nat → Query → Except Stop Query
  | 0, _ => .error .fuel
  | n + 1, q => do
      let q := q.pqClear
      let q ← if q.conn then pgsqlConnRelease n q else .ok q
      .ok { q with result := none, error := none, conn := false }

end

/-- What can happen to a query: its socket is readable, or its request, woken up, runs. The event
brings libpq's answers for the calls it causes. -/
inductive Ev
  | ready (answers : List Answer)
  | resume (answers : List Answer)
  deriving DecidableEq, Repr

/-- Enough fuel for every call an event causes. -/
def budget (q : Query) : Nat := 8 * (q.server.length + q.notifies.length) + 16

/-- `kore_pgsql_handle` for a readable socket. `pgsql_conn_release` ends the read events of the
connection. -/
def onReady (q : Query) (answers : List Answer) : Except Stop Query :=
  korePgsqlHandle b (budget q) { q with answers := answers }

/-- A woken request sees the state and calls `kore_pgsql_continue`, which has no case for
`COMPLETE`: there the request is finished with the query. -/
def onResume (q : Query) (answers : List Answer) : Except Stop Query :=
  let q := { q with observed := q.state :: q.observed, answers := answers }
  if q.state = .complete then .ok { q with awake := false }
  else korePgsqlContinue b (budget q) q

/-- The event can happen: the socket is watched while the query has a connection, also when its request
was woken up and has not run yet. -/
def enabled (q : Query) : Ev → Bool
  | .ready _ => q.conn
  | .resume _ => b.isRequest && q.awake

/-- The state after the event, or how it fails to return. -/
def onEvent (q : Query) : Ev → Except Stop Query
  | .ready answers => onReady b q answers
  | .resume answers => onResume b q answers

/-- The transitions: an enabled event that returns. -/
def step (q : Query) (e : Ev) : Option Query :=
  if enabled b q e then (onEvent b q e).toOption else none

end KoreWebsocket.Pgsql
