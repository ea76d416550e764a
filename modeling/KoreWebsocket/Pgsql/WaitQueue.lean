import KoreWebsocket.Lib.WaitQueue
import KoreWebsocket.Pgsql.Accounting

/-!
# The wait queue of the pool

`pgsql_queue_add`, `pgsql_queue_remove` and `pgsql_queue_wakeup` (`websocket_13/pgsql.c`) are the acts of
a `WaitQueue`: a `kore_pgsql` waits for a connection, is woken, gives up in `kore_pgsql_cleanup`, or is
dropped because its request is deleted. `pgsql_queue_wakeup` unlinks the entry only after the callback,
and by then it may have gone: the callback has called `kore_pgsql_cleanup`, or another wake-up has found
the same entry first in the queue. The entry is then unlinked and put into its pool a second time, and
counted off twice (`cleanup_in_woken_callback`).

`wait_queue_in_order`: in a run without that, the pool is a wait queue in every state, and who is woken is
the one that is called.
-/

namespace KoreWebsocket.Pgsql.Pool

open Machine
open WaitQueue (Ordered)

/-- The entries whose callback `pgsql_queue_wakeup` is waiting for. -/
def wakings (stack : List Frame) : List Nat :=
  stack.filterMap fun
    | .wakeTail t => some t
    | _ => none

/-- The queue of the pool. -/
def St.waitQueue (st : St) : WaitQueue Nat :=
  { entries := st.waitq, tickets := st.tickets, count := st.queueCount, waking := wakings st.stack }

/-- `pgw->pgsql->req->flags & HTTP_REQUEST_DELETE`. -/
def St.isDeleted (st : St) (entry : Ticket Nat) : Bool :=
  (st.pgs entry.2).bound == .request && (st.pgs entry.2).deleted

/-- What `pgsql_queue_wakeup` does to the queue until it calls a callback, or returns. -/
def St.wakeActs (st : St) : List (WaitQueue.Act Nat) :=
  (st.waitq.takeWhile st.isDeleted).map .drop ++
    match st.waitq.dropWhile st.isDeleted with
    | [] => []
    | entry :: _ =>
        if (st.pgs entry.2).bound = .callback then [.wake entry] else [.wake entry, .unlink entry.1]

/-- `pgsql_conn_next` finds a free connection. -/
def St.findsConn (st : St) (db : String) : Bool :=
  (st.free.find? fun c => (st.conns c).any (·.name == db)).isSome

/-- `pgsql_conn_next` has no connection to give and calls `pgsql_queue_add`. -/
def St.queues (st : St) (p : Nat) (db : String) : Bool :=
  match st.dbs.find? (·.name == db) with
  | none => false
  | some d =>
      (d.connMax ≠ 0 ∧ d.connCount ≥ d.connMax) ∧ (st.pgs p).async ∧ st.queueCount < st.queueLimit

/-- What an event does to the queue. -/
def St.acts (st : St) : Ev → List (WaitQueue.Act Nat)
  | .cleanup p => ((st.waitq.find? (·.2 == p)).map .giveUp).toList
  | .scan o =>
      match st.stack with
      | .next p db :: _ =>
          if st.findsConn db then (if o.inError then st.wakeActs else [])
          else if st.queues p db then [.add (st.tickets, p)] else []
      | _ => []
  | .ret =>
      match st.stack with
      | .releaseTail :: _ => st.wakeActs
      | .wakeTail t :: _ => [.unlink t]
      | _ => []
  | _ => []

/-- The event runs `pgsql_queue_wakeup`: a connection has been released, or a `ROLLBACK` releases one. -/
def RunsWakeup (st : St) : Ev → Prop
  | .ret => ∃ rest, st.stack = .releaseTail :: rest
  | .scan o => o.inError = true ∧ ∃ p db rest, st.stack = .next p db :: rest ∧ st.findsConn db = true
  | _ => False

/-- While a woken callback runs, the queue is woken again or the callback cleans up. -/
def Reenters (st : St) (e : Ev) : Prop :=
  wakings st.stack ≠ [] ∧ (RunsWakeup st e ∨ ∃ p, e = .cleanup p)

/-! ## The functions that leave the queue alone -/

section
variable (w : Nat) (st : St) (p c : Nat)

@[simp] theorem waitQueue_setPg (v : Pg) : (st.setPg p v).waitQueue = st.waitQueue := rfl

@[simp] theorem waitQueue_setConn (v : Option Conn) : (st.setConn c v).waitQueue = st.waitQueue := rfl

@[simp] theorem waitQueue_setError (msg : String) : (st.setError p msg).waitQueue = st.waitQueue := rfl

/-- A frame that wakes nobody. -/
theorem waitQueue_push {f : Frame} (h : wakings [f] = []) :
    (st.push f).waitQueue = st.waitQueue := by
  have hwakings : wakings (f :: st.stack) = wakings st.stack := by
    rw [← List.singleton_append, wakings, List.filterMap_append]
    change wakings [f] ++ wakings st.stack = wakings st.stack
    rw [h, List.nil_append]
  exact congrArg (WaitQueue.mk st.waitq st.tickets st.queueCount) hwakings

/-- The callback of a query that is not woken. -/
@[simp] theorem waitQueue_callCb : (st.callCb p).waitQueue = st.waitQueue := by
  rw [St.callCb]
  split
  case isTrue => exact waitQueue_push st rfl
  case isFalse => rfl

/-- `pgsql_conn_release` up to the wake-up. -/
@[simp] theorem waitQueue_connRelease : (st.connRelease p).waitQueue = st.waitQueue := by
  rw [St.connRelease]
  split
  case h_1 => rfl
  case h_2 c hc =>
    dsimp only
    rw [waitQueue_callCb, waitQueue_push _ rfl]
    rfl

/-- `pgsql_conn_cleanup` wakes nobody. -/
@[simp] theorem waitQueue_connCleanup : (st.connCleanup w c).waitQueue = st.waitQueue := by
  rw [St.connCleanup]
  split
  case h_1 => rfl
  case h_2 k hk =>
    dsimp only
    cases k.free <;> cases k.job <;> rfl

/-- A connection is stored without a look at the queue. -/
@[simp] theorem waitQueue_storeConn : (st.storeConn p c).waitQueue = st.waitQueue := rfl

/-- A connection is created. -/
@[simp] theorem waitQueue_connCreate (db : String) :
    (st.connCreate w db).waitQueue = st.waitQueue := rfl

/-- `kore_pgsql_setup` up to `pgsql_conn_next`. -/
@[simp] theorem waitQueue_setup (db : String) (async sync : Bool) :
    (setup st p db async sync).waitQueue = st.waitQueue := by
  rw [setup]
  split
  case isTrue => rfl
  case isFalse =>
    split
    case isTrue => rfl
    case isFalse =>
      dsimp only
      split
      case isTrue => exact waitQueue_push _ rfl
      case isFalse => rfl

/-- `kore_pgsql_query` does not use the queue. -/
@[simp] theorem waitQueue_query (ok : Bool) : (query st p ok).waitQueue = st.waitQueue := by
  rw [query]
  split
  case h_1 => rfl
  case h_2 c hc =>
    split
    case isTrue => rfl
    case isFalse =>
      split
      case isTrue => rfl
      case isFalse =>
        dsimp only
        rw [waitQueue_callCb]
        rfl

/-- `kore_pgsql_continue`, in each state. -/
theorem waitQueue_continue {st' : St} (h : korePgsqlContinue st p = some st') :
    st'.waitQueue = st.waitQueue := by
  rw [korePgsqlContinue] at h
  dsimp only at h
  split at h
  case h_1 | h_2 =>
    cases h
    rfl
  case h_3 =>
    cases h
    rw [waitQueue_connRelease]
    rfl
  case h_4 | h_5 | h_6 | h_7 =>
    obtain ⟨q, -, rfl⟩ := Option.map_eq_some_iff.1 h
    rw [waitQueue_push _ rfl]
    rfl
  case h_8 => cases h

end

/-! ## The pool is a wait queue -/

section
variable {w : Nat} {st st' : St} {acts : List (WaitQueue.Act Nat)}

/-- The entries have different numbers. -/
theorem nodup_numbers (h : Ordered st.waitQueue acts) : (st.waitq.map Prod.fst).Nodup :=
  h.sorted.imp Nat.ne_of_lt

/-- `pgsql_queue_add`. -/
theorem queueAdd_act (p : Nat) (hroom : st.queueCount < st.queueLimit) :
    exec WaitQueue.step st.waitQueue [.add (st.tickets, p)] = some (st.queueAdd p).waitQueue := by
  have hlt : st.queueCount.toNat + 1 < 2 ^ 32 := by
    have hlimit := UInt32.toNat_lt st.queueLimit
    have hcount := UInt32.lt_iff_toNat_lt.1 hroom
    omega
  rw [exec, WaitQueue.step, if_pos ⟨rfl, hlt⟩]
  rfl

/-- `pgsql_queue_remove`. -/
theorem queueRemove_act (h : Ordered st.waitQueue acts) (hnone : wakings st.stack = []) (p : Nat) :
    exec WaitQueue.step st.waitQueue ((st.waitq.find? (·.2 == p)).map .giveUp).toList =
      some (st.queueRemove p).waitQueue := by
  rw [St.queueRemove]
  cases hfind : st.waitq.find? (·.2 == p) with
  | none =>
      have hno : st.waitq.any (·.2 == p) = false := by
        rw [List.any_eq_false]
        exact List.find?_eq_none.1 hfind
      rw [hno]
      rfl
  | some entry =>
      have hany : st.waitq.any (·.2 == p) = true :=
        List.any_eq_true.2 ⟨entry, List.mem_of_find?_eq_some hfind,
          @List.find?_some _ (fun e : Ticket Nat => e.2 == p) _ _ hfind⟩
      have herase := WaitQueue.eraseP_eq_filter (nodup_numbers h) hfind
      rw [if_pos hany, Option.map_some, Option.toList_some, exec, WaitQueue.step,
        if_pos ⟨hnone, List.mem_of_find?_eq_some hfind⟩]
      simp only [Option.bind_some, exec_nil, St.waitQueue, WaitQueue.remove, herase]

/-- The pool without the entries that `pgsql_queue_wakeup` drops. -/
def St.dropDeleted (st : St) : St :=
  { st with
    waitq := st.waitq.dropWhile st.isDeleted
    queueCount := st.queueCount - UInt32.ofNat (st.waitq.takeWhile st.isDeleted).length }

/-- `pgsql_queue_wakeup` drops the entries of deleted requests, and wakes the first of the others. -/
theorem queueWakeup_eq_dropDeleted (st : St) : st.queueWakeup =
    match st.waitq.dropWhile st.isDeleted with
    | [] => st.dropDeleted
    | (t, p) :: tail =>
        if (st.pgs p).bound = .callback then (st.dropDeleted.push (.wakeTail t)).push (.user p)
        else { st.dropDeleted with waitq := tail, queueCount := st.dropDeleted.queueCount - 1 } := by
  have hlength : st.waitq.length - (st.waitq.dropWhile st.isDeleted).length =
      (st.waitq.takeWhile st.isDeleted).length := by
    have hsum := congrArg List.length (@List.takeWhile_append_dropWhile _ st.isDeleted st.waitq)
    rw [List.length_append] at hsum
    omega
  have hdeleted : (fun e : Ticket Nat => (st.pgs e.2).bound == .request && (st.pgs e.2).deleted) =
      st.isDeleted := rfl
  rw [St.dropDeleted, ← hlength, St.queueWakeup, hdeleted]
  rfl

/-- `pgsql_queue_wakeup`, when no entry is being woken. -/
theorem queueWakeup_acts (h : Ordered st.waitQueue acts) (hnone : wakings st.stack = []) :
    exec WaitQueue.step st.waitQueue st.wakeActs = some st.queueWakeup.waitQueue := by
  have hsplit : st.waitq = st.waitq.takeWhile st.isDeleted ++ st.waitq.dropWhile st.isDeleted :=
    List.takeWhile_append_dropWhile.symm
  have hdrop : exec WaitQueue.step st.waitQueue ((st.waitq.takeWhile st.isDeleted).map .drop) =
      some st.dropDeleted.waitQueue :=
    WaitQueue.exec_drop hnone hsplit (nodup_numbers h)
  rw [St.wakeActs, exec_append]
  refine ⟨_, hdrop, ?_⟩
  rw [queueWakeup_eq_dropDeleted]
  cases hrest : st.waitq.dropWhile st.isDeleted with
  | nil => rfl
  | cons entry tail =>
      obtain ⟨t, p⟩ := entry
      have hwake : st.dropDeleted.waitQueue.step (.wake (t, p)) =
          some { st.dropDeleted.waitQueue with waking := [t] } := by
        have hhead : st.dropDeleted.waitQueue.entries.head? = some (t, p) := by
          change (st.waitq.dropWhile st.isDeleted).head? = some (t, p)
          rw [hrest]
          rfl
        rw [WaitQueue.step, if_pos ⟨hnone, hhead⟩]
      dsimp only
      split
      case isTrue =>
        rw [exec, hwake, Option.bind_some, exec_nil]
        have hwakings : wakings (.user p :: .wakeTail t :: st.stack) = [t] := by
          change t :: wakings st.stack = [t]
          rw [hnone]
        exact congrArg some (congrArg (WaitQueue.mk _ _ _) hwakings.symm)
      case isFalse =>
        -- a request is woken, and its entry unlinked at once
        have htail : (st.waitq.dropWhile st.isDeleted).filter (·.1 ≠ t) = tail := by
          have hnodup : (((t, p) :: tail).map Prod.fst).Nodup := by
            rw [← hrest]
            exact (nodup_numbers h).sublist ((List.dropWhile_sublist _).map _)
          rw [List.map_cons, List.nodup_cons] at hnodup
          have hall : ∀ other ∈ tail, other.1 ≠ t := fun other hother heq =>
            hnodup.1 (List.mem_map.2 ⟨other, hother, heq⟩)
          rw [hrest, List.filter_cons_of_neg (by simp), List.filter_eq_self.2 (by simpa using hall)]
        rw [exec, hwake, Option.bind_some, exec, WaitQueue.step, if_pos rfl, Option.bind_some,
          exec_nil]
        simp only [WaitQueue.remove, St.waitQueue, St.dropDeleted, htail, hnone]

/-- The queue and the requests decide what a wake-up does. -/
theorem wakeActs_congr {s : St} (hwaitq : s.waitq = st.waitq) (hpgs : s.pgs = st.pgs) :
    s.wakeActs = st.wakeActs := by
  have hdeleted : s.isDeleted = st.isDeleted := by
    funext entry
    rw [St.isDeleted, St.isDeleted, hpgs]
  rw [St.wakeActs, St.wakeActs, hwaitq, hdeleted, hpgs]

/-- The wake-up in a state with the same queue. -/
theorem queueWakeup_acts_of (s : St) (hqueue : s.waitQueue = st.waitQueue) (hpgs : s.pgs = st.pgs)
    (h : Ordered st.waitQueue acts) (hnone : wakings st.stack = []) :
    exec WaitQueue.step st.waitQueue st.wakeActs = some s.queueWakeup.waitQueue := by
  have hwaitq : s.waitq = st.waitq := congrArg WaitQueue.entries hqueue
  have hwakings : wakings s.stack = wakings st.stack := congrArg WaitQueue.waking hqueue
  rw [← wakeActs_congr hwaitq hpgs, ← hqueue]
  exact queueWakeup_acts (hqueue ▸ h) (hwakings.trans hnone)

/-- A pass of `pgsql_conn_next`. -/
theorem scan_acts (h : Ordered st.waitQueue acts) {p : Nat} {db : String} {o : Scan}
    (hnone : o.inError = true → st.findsConn db = true → wakings st.stack = [])
    (hscan : scan w st p db o = some st') :
    exec WaitQueue.step st.waitQueue
      (if st.findsConn db then (if o.inError then st.wakeActs else [])
        else if st.queues p db then [.add (st.tickets, p)] else []) = some st'.waitQueue := by
  rw [scan] at hscan
  cases hfind : st.free.find? (fun c => (st.conns c).any (·.name == db)) with
  | some c =>
      have hfinds : st.findsConn db = true := by rw [St.findsConn, hfind]; rfl
      rw [hfind] at hscan
      dsimp only at hscan
      rw [if_pos hfinds]
      cases herror : o.inError with
      | true =>
          -- the queue is woken in the `kore_pgsql_cleanup` of the `ROLLBACK`
          rw [herror, if_pos rfl] at hscan
          cases hscan
          rw [if_pos rfl]
          exact queueWakeup_acts_of _ rfl rfl h (hnone herror hfinds)
      | false =>
          rw [herror, if_neg Bool.false_ne_true] at hscan
          cases hscan
          rfl
  | none =>
      have hfinds : st.findsConn db = false := by rw [St.findsConn, hfind]; rfl
      rw [hfind] at hscan
      dsimp only at hscan
      rw [hfinds, if_neg Bool.false_ne_true, St.queues]
      cases hdb : st.dbs.find? (·.name == db) with
      | none =>
          rw [hdb] at hscan
          cases hscan
      | some d =>
          rw [hdb] at hscan
          dsimp only at hscan ⊢
          split at hscan
          case isTrue hlimit =>
            split at hscan
            case isTrue hqueue =>
              cases hscan
              rw [if_pos (by simpa using ⟨hlimit, hqueue⟩), waitQueue_setPg]
              exact queueAdd_act p hqueue.2
            case isFalse hqueue =>
              cases hscan
              have hno : ¬ decide ((d.connMax ≠ 0 ∧ d.connCount ≥ d.connMax) ∧
                  (st.pgs p).async = true ∧ st.queueCount < st.queueLimit) = true := by
                rw [decide_eq_true_eq]
                exact fun hall => hqueue hall.2
              rw [if_neg hno]
              rfl
          case isFalse hlimit =>
            have hno : ¬ decide ((d.connMax ≠ 0 ∧ d.connCount ≥ d.connMax) ∧
                (st.pgs p).async = true ∧ st.queueCount < st.queueLimit) = true := by
              rw [decide_eq_true_eq]
              exact fun hall => hlimit hall.1
            rw [if_neg hno]
            split at hscan
            case isTrue => cases hscan; rfl
            case isFalse =>
              cases hscan
              rw [waitQueue_setPg, waitQueue_connCleanup]
              rfl

/-- The code after a frame. -/
theorem resume_acts (h : Ordered st.waitQueue acts) {f : Frame} {rest : List Frame}
    (hstack : st.stack = f :: rest) (hm : ¬ Reenters st .ret)
    (hresume : resume w { st with stack := rest } f = some st') :
    exec WaitQueue.step st.waitQueue (st.acts .ret) = some st'.waitQueue := by
  rw [St.acts, hstack]
  cases f with
  | wakeTail t =>
      cases hresume
      have hwakings : wakings st.stack = t :: wakings rest := by rw [hstack]; rfl
      have hrest : wakings rest = [] := by
        rcases h.waking_cases with hnone | ⟨entry, -, hone, -⟩
        · exact absurd (hwakings.symm.trans hnone) (List.cons_ne_nil _ _)
        · exact (List.cons.inj (hwakings.symm.trans hone)).2
      have hone : wakings st.stack = [t] := by rw [hwakings, hrest]
      have hunlink : st.waitQueue.step (.unlink t) =
          some { st.waitQueue.remove t with waking := [] } := by
        rw [WaitQueue.step]
        exact if_pos hone
      rw [exec, hunlink, Option.bind_some, exec_nil]
      have hfilter : st.waitq.filter (·.1 != t) = st.waitq.filter (·.1 ≠ t) :=
        List.filter_congr fun entry _ => by simp [bne, Bool.beq_eq_decide_eq]
      simp only [WaitQueue.remove, St.waitQueue, hrest, hfilter]
  | releaseTail =>
      cases hresume
      have hnone : wakings st.stack = [] := by
        by_contra hwaking
        exact hm ⟨hwaking, .inl ⟨rest, hstack⟩⟩
      refine queueWakeup_acts_of _ ?_ rfl h hnone
      rw [St.waitQueue, St.waitQueue, hstack]
      rfl
  | next p db => cases hresume
  | rolled c failed =>
      cases hresume
      have hrest : St.waitQueue { st with stack := rest } = st.waitQueue := by
        rw [St.waitQueue, St.waitQueue, hstack]
        rfl
      cases failed with
      | true => exact congrArg some ((waitQueue_connCleanup _ _ _).trans hrest).symm
      | false => exact congrArg some hrest.symm
  | user p | cleanupTail p | handle p =>
      cases hresume
      rw [St.waitQueue, St.waitQueue, hstack]
      rfl

/-- **What a step does to the queue.** Without re-entry, a step of the pool is the acts of the wait queue
that it is said to be. -/
theorem step_acts {e : Ev} (h : Ordered st.waitQueue acts) (hm : ¬ Reenters st e)
    (hstep : step w st e = some st') :
    exec WaitQueue.step st.waitQueue (st.acts e) = some st'.waitQueue := by
  cases e with
  | register name connMax =>
      rw [step] at hstep
      split at hstep
      case isTrue =>
        split at hstep <;> cases hstep <;> rfl
      case isFalse => cases hstep
  | deleteRequest p =>
      rw [step] at hstep
      split at hstep
      case isTrue => cases hstep; rfl
      case isFalse => cases hstep
  | setup p db async sync =>
      rw [step] at hstep
      split at hstep
      case isTrue =>
        cases hstep
        rw [waitQueue_setup]
        rfl
      case isFalse => cases hstep
  | scan o =>
      rw [step] at hstep
      split at hstep
      case h_1 p db rest hstack =>
        rw [St.acts, hstack]
        have hqueue : St.waitQueue { st with stack := rest } = st.waitQueue := by
          rw [St.waitQueue, St.waitQueue, hstack]
          rfl
        have hordered : Ordered (St.waitQueue { st with stack := rest }) acts := hqueue ▸ h
        have hscan := scan_acts hordered ?_ hstep
        · rw [hqueue] at hscan
          exact hscan
        · intro herror hfinds
          by_contra hwaking
          refine hm ⟨?_, .inl ⟨herror, p, db, rest, hstack, hfinds⟩⟩
          rw [hstack]
          exact hwaking
      case h_2 => cases hstep
  | query p ok =>
      rw [step] at hstep
      split at hstep
      case isTrue =>
        cases hstep
        rw [waitQueue_query]
        rfl
      case isFalse => cases hstep
  | «continue» p =>
      rw [step] at hstep
      split at hstep
      case isTrue =>
        rw [waitQueue_continue st p hstep]
        rfl
      case isFalse => cases hstep
  | cleanup p =>
      rw [step] at hstep
      split at hstep
      case isTrue =>
        cases hstep
        have hnone : wakings st.stack = [] := by
          by_contra hwaking
          exact hm ⟨hwaking, .inr ⟨p, rfl⟩⟩
        rw [korePgsqlCleanup, waitQueue_connRelease, waitQueue_push _ rfl]
        exact queueRemove_act h hnone p
      case isFalse => cases hstep
  | ready c =>
      rw [step] at hstep
      split at hstep
      case isTrue =>
        obtain ⟨k, -, hk⟩ := Option.bind_eq_some_iff.1 hstep
        split at hk
        case isTrue =>
          obtain ⟨p, -, rfl⟩ := Option.map_eq_some_iff.1 hk
          rw [waitQueue_push _ rfl]
          rfl
        case isFalse => cases hk
      case isFalse => cases hstep
  | error c =>
      rw [step] at hstep
      split at hstep
      case isTrue =>
        cases hstep
        rw [waitQueue_connCleanup]
        rfl
      case isFalse => cases hstep
  | report s =>
      rw [step] at hstep
      split at hstep
      case h_1 p rest hstack =>
        cases hstep
        rw [waitQueue_callCb, waitQueue_setPg]
        rfl
      case h_2 => cases hstep
  | ret =>
      rw [step] at hstep
      split at hstep
      case h_1 => cases hstep
      case h_2 f rest hstack => exact resume_acts h hstack hm hstep

end

/-! ## Who is called -/

section
variable {w : Nat} {st st' : St} {t p : Nat}

/-- Who is woken waits in the queue, and his callback is called next. -/
theorem queueWakeup_calls (s : St) (hwaitq : s.waitq = st.waitq) (hpgs : s.pgs = st.pgs)
    (h : .wake (t, p) ∈ st.wakeActs) :
    (t, p) ∈ st.waitq ∧ ((st.pgs p).bound = .callback →
      ∃ rest, s.queueWakeup.stack = .user p :: .wakeTail t :: rest) := by
  rw [← wakeActs_congr hwaitq hpgs, St.wakeActs] at h
  rw [← hwaitq, ← hpgs, queueWakeup_eq_dropDeleted]
  have hrest := (List.mem_append.1 h).resolve_left fun hdrop => by
    obtain ⟨entry, -, heq⟩ := List.mem_map.1 hdrop
    cases heq
  cases hentries : s.waitq.dropWhile s.isDeleted with
  | nil =>
      rw [hentries] at hrest
      cases hrest
  | cons entry tail =>
      rw [hentries] at hrest
      have hentry : entry = (t, p) := by
        dsimp only at hrest
        split at hrest
        case isTrue => cases List.mem_singleton.1 hrest; rfl
        case isFalse =>
          rcases List.mem_cons.1 hrest with heq | heq
          · cases heq; rfl
          · cases List.mem_singleton.1 heq
      subst hentry
      refine ⟨(List.dropWhile_sublist s.isDeleted).subset (hentries ▸ List.mem_cons_self), ?_⟩
      intro hcallback
      dsimp only
      rw [if_pos hcallback]
      exact ⟨s.stack, rfl⟩

/-- An event that wakes an entry calls the callback of this entry, with the code that unlinks the entry
behind it. -/
theorem step_calls {e : Ev} (hstep : step w st e = some st') (hwake : .wake (t, p) ∈ st.acts e) :
    (t, p) ∈ st.waitq ∧ ((st.pgs p).bound = .callback →
      ∃ rest, st'.stack = .user p :: .wakeTail t :: rest) := by
  cases e with
  | scan o =>
      rw [St.acts] at hwake
      rw [step] at hstep
      split at hwake
      case h_1 q db rest hstack =>
        rw [hstack] at hstep
        dsimp only at hstep
        split at hwake
        case isTrue hfinds =>
          obtain ⟨c, hfind⟩ := Option.isSome_iff_exists.1 hfinds
          split at hwake
          case isTrue herror =>
            -- the `ROLLBACK` gives its connection back
            rw [scan, hfind] at hstep
            dsimp only at hstep
            rw [if_pos herror] at hstep
            cases hstep
            exact queueWakeup_calls _ rfl rfl hwake
          case isFalse => cases hwake
        case isFalse =>
          split at hwake
          case isTrue => cases List.mem_singleton.1 hwake
          case isFalse => cases hwake
      case h_2 => cases hwake
  | ret =>
      rw [St.acts] at hwake
      rw [step] at hstep
      split at hwake
      case h_1 rest hstack =>
        rw [hstack] at hstep
        cases hstep
        exact queueWakeup_calls _ rfl rfl hwake
      case h_2 => cases List.mem_singleton.1 hwake
      case h_3 => cases hwake
  | cleanup q =>
      obtain ⟨entry, -, heq⟩ := Option.map_eq_some_iff.1 (Option.mem_toList.1 hwake)
      cases heq
  | register | deleteRequest | setup | query | «continue» | ready | error | report => cases hwake

end

/-! ## Runs -/

/-- What the events of a run do to the queue. -/
def queueActs (w : Nat) (st : St) (evs : List Ev) : List (WaitQueue.Act Nat) :=
  expand (step w) St.acts st evs

/-- **The wait queue.** In every run from an empty queue in which no woken callback cleans up or has the
queue woken again: `pgsql_queue_count` is the length of the queue; the queue is what has been queued and
not removed, and nothing is removed twice; who is woken is woken after everybody who was queued before
him, apart from those that were cleaned up or whose request is deleted; and the event that wakes him calls
his callback. -/
theorem wait_queue_in_order (w : Nat) {st₀ st : St} {evs : List Ev}
    (hqueue : st₀.waitQueue = {}) (hm : Meets (step w) (fun st e => ¬ Reenters st e) st₀ evs)
    (h : exec (step w) st₀ evs = some st) :
    st.queueCount.toNat = st.waitq.length ∧
    (WaitQueue.queued (queueActs w st₀ evs)).map Prod.fst = List.range st.tickets ∧
    st.waitq = (WaitQueue.queued (queueActs w st₀ evs)).filter
      (·.1 ∉ WaitQueue.removed (queueActs w st₀ evs)) ∧
    (WaitQueue.removed (queueActs w st₀ evs)).Nodup ∧
    (WaitQueue.woken (queueActs w st₀ evs)).Pairwise (· < ·) ∧
    (∀ n ∈ WaitQueue.woken (queueActs w st₀ evs), ∀ m < n,
      m ∈ WaitQueue.woken (queueActs w st₀ evs) ∨ m ∈ WaitQueue.gaveUp (queueActs w st₀ evs) ∨
        m ∈ WaitQueue.dropped (queueActs w st₀ evs)) ∧
    ∀ pre e s s', pre ++ [e] <+: evs → exec (step w) st₀ pre = some s → step w s e = some s' →
      ∀ t p, .wake (t, p) ∈ s.acts e → (t, p) ∈ s.waitq ∧
        ((s.pgs p).bound = .callback → ∃ rest, s'.stack = .user p :: .wakeTail t :: rest) := by
  have hstart : exec WaitQueue.step {} [] = some st₀.waitQueue := by rw [hqueue]; rfl
  have hrun : exec WaitQueue.step {} (queueActs w st₀ evs) = some st.waitQueue :=
    exec_expand (fun _ _ _ _ hreach hc hs => step_acts (WaitQueue.exec_ordered hreach) hc hs)
      hstart hm h
  have hordered := WaitQueue.exec_ordered hrun
  exact ⟨hordered.count_eq, hordered.numbers_eq, hordered.entries_eq, hordered.removed_nodup,
    hordered.woken_sorted, hordered.woken_before,
    fun _ _ _ _ _ _ hstep _ _ hwake => step_calls hstep hwake⟩

/-- The second `kore_pgsql` waits for the only connection, and its callback is called when the first gives
the connection back. -/
def wakeSecond : List Ev :=
  [.register "db" 1, .setup 0 "db" true false, .scan {}, .setup 1 "db" true false, .scan {}, .cleanup 0,
    .ret, .ret]

/-- The callback sets its `kore_pgsql` up again, and gets the connection. -/
theorem wait_queue_in_order_setupAgain :
    ∃ st, exec (step 16) callbackPool (wakeSecond ++ [.setup 1 "db" true false, .scan {}, .ret, .ret]) =
        some st ∧
      st.waitq = [] ∧ st.queueCount.toNat = st.waitq.length := by
  refine ⟨_, rfl, rfl, ?_⟩
  refine (@wait_queue_in_order 16 callbackPool _
    (wakeSecond ++ [.setup 1 "db" true false, .scan {}, .ret, .ret]) rfl ?_ rfl).1
  have hidle : ∀ {st : St} {e : Ev}, wakings st.stack = [] → ¬ Reenters st e :=
    fun hnone hre => hre.1 hnone
  refine .cons (hidle rfl) rfl (.cons (hidle rfl) rfl (.cons (hidle rfl) rfl (.cons (hidle rfl) rfl
    (.cons (hidle rfl) rfl (.cons (hidle rfl) rfl (.cons (hidle rfl) rfl (.cons (hidle rfl) rfl
    (.cons ?_ rfl (.cons ?_ rfl (.cons ?_ rfl (.cons ?_ rfl trivial)))))))))))
  · rintro ⟨-, h | ⟨p, h⟩⟩ <;> cases h
  · rintro ⟨-, ⟨h, -⟩ | ⟨p, h⟩⟩ <;> cases h
  · rintro ⟨-, ⟨rest, h⟩ | ⟨p, h⟩⟩ <;> cases h
  · rintro ⟨-, ⟨rest, h⟩ | ⟨p, h⟩⟩ <;> cases h

/-- The callback cleans up: its entry is removed by `kore_pgsql_cleanup` and once more after the callback,
and `pgsql_queue_count` goes below zero. -/
theorem cleanup_in_woken_callback :
    ¬ ∀ (w : Nat) (st₀ st : St) (evs : List Ev), IsInit st₀ → st₀.waitQueue = {} →
      exec (step w) st₀ evs = some st →
      st.queueCount.toNat = st.waitq.length ∧
        (WaitQueue.removed (queueActs w st₀ evs)).Nodup := by
  intro h
  have hcount := (h 16 callbackPool _ (wakeSecond ++ [.cleanup 1, .ret, .ret, .ret])
    ⟨rfl, fun _ => rfl, rfl, rfl, fun _ => rfl, rfl, rfl, rfl⟩ rfl rfl).1
  exact absurd hcount (by decide)

end KoreWebsocket.Pgsql.Pool
