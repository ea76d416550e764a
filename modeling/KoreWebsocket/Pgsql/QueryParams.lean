import KoreWebsocket.Lib.While
import KoreWebsocket.Pgsql.Results

/-!
# Queries with parameters (`websocket_13/pgsql.c`)

`kore_pgsql_v_query_params` takes the value, the length and the format of each parameter from the arguments
of the call and gives libpq three arrays. Its index is an `u_int8_t` and the count an `int`, so the loop ends
just if there are at most 255 parameters (`packs_iff`); with more it never ends, and reads an argument that
was not given (`queryParams_eq_error`). What it does to the query is what `kore_pgsql_query` does
(`step_of_queryParams`).
-/

namespace KoreWebsocket.Pgsql

open Checked (bind_eq_ok ok_bind)
open Results (Mode St)


variable {π : Type}

/-- An argument of a call, a pointer or an `int`. -/
inductive VaArg (π : Type)
  | pointer (p : Option π)
  | int (n : Int32)
  deriving DecidableEq, Repr

/-- A parameter of a query. -/
structure Param (π : Type) where
  value : Option π
  length : Int32
  format : Int32
  deriving DecidableEq, Repr

/-- A parameter, as it is given to the call. -/
def Param.args (param : Param π) : List (VaArg π) :=
  [.pointer param.value, .int param.length, .int param.format]

/-- How the loop can fail: `va_arg` without an argument of the type, a write outside of an array, or too
little fuel. -/
inductive PackFault
  | argument
  | bounds
  | fuel
  deriving DecidableEq, Repr

/-- `va_arg(args, void *)`. -/
def vaPointer : List (VaArg π) → Except PackFault (Option π × List (VaArg π))
  | .pointer p :: args => .ok (p, args)
  | _ => .error .argument

/-- `va_arg(args, int)`. -/
def vaInt : List (VaArg π) → Except PackFault (Int32 × List (VaArg π))
  | .int n :: args => .ok (n, args)
  | _ => .error .argument

/-- A write to an array of the heap. -/
def store {α : Type} (i : UInt8) (a : α) (array : List α) : Except PackFault (List α) :=
  if i.toNat < array.length then .ok (array.set i.toNat a) else .error .bounds

/-- The variables of the loop. -/
structure Packing (π : Type) where
  i : UInt8
  args : List (VaArg π)
  values : List (Option π)
  lengths : List Int32
  formats : List Int32
  deriving DecidableEq, Repr

namespace Packing

/-- `kore_calloc` for each array, and `i = 0`. -/
def start (count : Int32) (args : List (VaArg π)) : Packing π :=
  { i := 0
    args
    values := List.replicate count.toNatClampNeg none
    lengths := List.replicate count.toNatClampNeg 0
    formats := List.replicate count.toNatClampNeg 0 }

/-- `i < count`, as `int`. -/
def Guard (count : Int32) (p : Packing π) : Prop := (p.i.toNat : ℤ) < count.toInt

instance (count : Int32) : DecidablePred (Guard (π := π) count) :=
  fun _ => inferInstanceAs (Decidable (_ < _))

/-- The body of the loop, and `i++`. -/
def round (p : Packing π) : Except PackFault (Packing π) := do
  let (value, args) ← vaPointer p.args
  let values ← store p.i value p.values
  let (length, args) ← vaInt args
  let lengths ← store p.i length p.lengths
  let (format, args) ← vaInt args
  let formats ← store p.i format p.formats
  return { i := p.i + 1, args, values, lengths, formats }

end Packing

/-- What `PQexecParams` or `PQsendQueryParams` is given; an array that was not allocated is `NULL`. -/
structure Passed (π : Type) where
  query : String
  nParams : Int32
  values : Option (List (Option π))
  lengths : Option (List Int32)
  formats : Option (List Int32)
  resultFormat : Int32
  deriving DecidableEq, Repr

/-- The `i`-th entries of the arrays. -/
def Passed.param (passed : Passed π) (i : ℕ) : Option (Param π) := do
  let values ← passed.values
  let lengths ← passed.lengths
  let formats ← passed.formats
  return { value := ← values[i]?, length := ← lengths[i]?, format := ← formats[i]? }

/-- The arrays for a number of parameters. -/
def pack (fuel : ℕ) (query : String) (result count : Int32) (args : List (VaArg π)) :
    Except PackFault (Passed π) :=
  if 0 < count then do
    let p ← While.run (Packing.Guard count) Packing.round .fuel fuel (.start count args)
    return { query, nParams := count, values := p.values, lengths := p.lengths, formats := p.formats,
             resultFormat := result }
  else
    .ok { query, nParams := count, values := none, lengths := none, formats := none,
          resultFormat := result }

/-- What libpq answers: the status of what `PQexecParams` returns, whether `PQsendQueryParams` succeeds, and
`PQerrorMessage`. -/
structure Libpq where
  executed : Option ResultStatus
  sent : Bool
  errorMessage : String
  deriving DecidableEq, Repr

/-- The query succeeds. -/
def Libpq.succeeds (m : Mode) (libpq : Libpq) : Bool :=
  if m.sync then libpq.executed = some .tuplesOk ∨ libpq.executed = some .commandOk else libpq.sent

/-- The query after the call, the text that `pgsql_set_error` is given, what is returned, and what libpq was
given. -/
structure Outcome (π : Type) where
  st : St
  error : Option String
  ok : Bool
  passed : Option (Passed π)
  deriving DecidableEq, Repr

/-- `kore_pgsql_v_query_params`. From the call of libpq on it is `kore_pgsql_query`. -/
def korePgsqlVQueryParams (m : Mode) (libpq : Libpq) (fuel : ℕ) (st : St) (query : String)
    (result count : Int32) (args : List (VaArg π)) : Except PackFault (Outcome π) :=
  if st.conn = false then
    .ok { st := { st with state := .error }
          error := some "no connection was set before query"
          ok := false
          passed := none }
  else do
    let passed ← pack fuel query result count args
    return { st := Results.korePgsqlQuery m st libpq.executed libpq.sent
             error := if libpq.succeeds m then none else some libpq.errorMessage
             ok := libpq.succeeds m
             passed := some passed }

/-- `kore_pgsql_query_params`: the arguments after `count` are the list. -/
def korePgsqlQueryParams (m : Mode) (libpq : Libpq) (fuel : ℕ) (st : St) (query : String)
    (result count : Int32) (args : List (VaArg π)) : Except PackFault (Outcome π) :=
  korePgsqlVQueryParams m libpq fuel st query result count args

/-- For these parameters the loop ends after `count` rounds, and with as much fuel the call returns and has
given libpq each of them at its place. -/
structure Packs (m : Mode) (libpq : Libpq) (st : St) (query : String) (result count : Int32)
    (params : List (Param π)) : Prop where
  ends : ∃ p, While.Ends (Packing.Guard count) Packing.round params.length
    (.start count (params.flatMap Param.args)) p
  passes : ∀ fuel > params.length, ∃ o passed,
    korePgsqlVQueryParams m libpq fuel st query result count (params.flatMap Param.args) = .ok o ∧
      o.passed = some passed ∧ passed.nParams = count ∧
      ∀ i < params.length, passed.param i = params[i]?

/-! ## A round -/

/-- An array that has its first entries from the parameters, as far as the index counts. -/
def Filled {α : Type} (f : Param π → α) (params : List (Param π)) (k : ℕ) (array : List α) : Prop :=
  array.length = params.length ∧ (k ≤ 256 → ∀ j < k, array[j]? = params[j]?.map f)

/-- The variables after so many rounds. -/
structure Packed (params : List (Param π)) (k : ℕ) (p : Packing π) : Prop where
  index : p.i.toNat = k % 256
  args : p.args = (params.drop k).flatMap Param.args
  values : Filled Param.value params k p.values
  lengths : Filled Param.length params k p.lengths
  formats : Filled Param.format params k p.formats

section
variable {params : List (Param π)} {param : Param π} {k : ℕ} {p : Packing π} {count : Int32}

theorem toNatClampNeg_eq (hlength : count.toInt = params.length) :
    count.toNatClampNeg = params.length := by
  rw [Int32.toNatClampNeg, hlength, Int.toNat_natCast]

/-- At first nothing is filled in. -/
theorem filled_zero {α : Type} (f : Param π → α) (a : α) (hlength : count.toInt = params.length) :
    Filled f params 0 (List.replicate count.toNatClampNeg a) := by
  refine ⟨?_, fun _ j hj => absurd hj (Nat.not_lt_zero j)⟩
  rw [List.length_replicate, toNatClampNeg_eq hlength]

/-- An entry is written, at its place as far as the index counts. -/
theorem Filled.store {α : Type} {f : Param π → α} {array : List α} (h : Filled f params k array)
    {i : UInt8} (hi : i.toNat = k % 256) (hparam : params[k]? = some param) :
    ∃ array', Pgsql.store i (f param) array = .ok array' ∧ Filled f params (k + 1) array' := by
  obtain ⟨hk, -⟩ := List.getElem?_eq_some_iff.1 hparam
  have hlt : i.toNat < array.length := by
    rw [hi, h.1]
    exact (Nat.mod_le k 256).trans_lt hk
  refine ⟨array.set i.toNat (f param), if_pos hlt, ?_, fun hle j hj => ?_⟩
  · rw [List.length_set, h.1]
  · have hself : i.toNat = k := hi.trans (Nat.mod_eq_of_lt hle)
    rw [hself] at hlt ⊢
    rcases Nat.lt_succ_iff_lt_or_eq.1 hj with hj | rfl
    · rw [List.getElem?_set_ne (Nat.ne_of_gt hj)]
      exact h.2 (Nat.le_of_succ_le hle) j hj
    · rw [List.getElem?_set_self hlt, hparam]
      rfl

/-- The loop begins with all arguments. -/
theorem packed_start (hlength : count.toInt = params.length) :
    Packed params 0 (.start count (params.flatMap Param.args)) where
  index := rfl
  args := rfl
  values := filled_zero _ _ hlength
  lengths := filled_zero _ _ hlength
  formats := filled_zero _ _ hlength

/-- **A round** takes the next parameter. -/
theorem Packed.round (h : Packed params k p) (hk : k < params.length) :
    ∃ p', p.round = .ok p' ∧ Packed params (k + 1) p' := by
  have hparam := List.getElem?_eq_getElem hk
  obtain ⟨values, hvalues, hvalues'⟩ := h.values.store h.index hparam
  obtain ⟨lengths, hlengths, hlengths'⟩ := h.lengths.store h.index hparam
  obtain ⟨formats, hformats, hformats'⟩ := h.formats.store h.index hparam
  have hargs : p.args = .pointer params[k].value :: .int params[k].length :: .int params[k].format ::
      (params.drop (k + 1)).flatMap Param.args := by
    rw [h.args, List.drop_eq_getElem_cons hk]
    rfl
  refine ⟨{ i := p.i + 1, args := (params.drop (k + 1)).flatMap Param.args, values, lengths, formats },
    ?_, ?_⟩
  · rw [Packing.round, hargs]
    simp only [vaPointer, vaInt, ok_bind, hvalues, hlengths, hformats]
    rfl
  · exact {
      index := by
        rw [UInt8.toNat_add, h.index, UInt8.toNat_one, Nat.mod_add_mod]
      args := rfl
      values := hvalues'
      lengths := hlengths'
      formats := hformats' }

/-- There is no argument after the last parameter. -/
theorem Packed.round_eq_error (h : Packed params params.length p) : p.round = .error .argument := by
  have hargs : p.args = [] := by
    rw [h.args, List.drop_length]
    rfl
  rw [Packing.round, hargs]
  rfl

/-! ## The loop -/

/-- The loop goes on while there are parameters. -/
theorem guard_iff (hlength : count.toInt = params.length) :
    Packing.Guard count p ↔ p.i.toNat < params.length := by
  rw [Packing.Guard, hlength]
  exact Nat.cast_lt

/-- An index of eight bits is below a larger count. -/
theorem guard_of_lt (hcount : 255 < count.toInt) (p : Packing π) : Packing.Guard count p := by
  have hindex : p.i.toNat < 256 := p.i.toNat_lt
  unfold Packing.Guard
  omega

/-- With at most 255 parameters the loop ends after a round for each. -/
theorem exists_packed (hlength : count.toInt = params.length) (hfew : params.length ≤ 255) :
    ∃ p, While.Ends (Packing.Guard count) Packing.round params.length
      (.start count (params.flatMap Param.args)) p ∧ Packed params params.length p := by
  have hindex : ∀ {k} {p : Packing π}, k ≤ params.length → Packed params k p → p.i.toNat = k :=
    fun hk h => h.index.trans (Nat.mod_eq_of_lt (Nat.lt_succ_of_le (hk.trans hfew)))
  refine While.exists_ends (fun k hk p h => ⟨?_, h.round hk⟩) (fun p h => ?_) (packed_start hlength)
  · rw [guard_iff hlength, hindex hk.le h]
    exact hk
  · rw [guard_iff hlength, hindex le_rfl h]
    exact Nat.lt_irrefl _

/-- The arrays have the parameters. -/
theorem Packed.param_eq (h : Packed params params.length p) (hfew : params.length ≤ 255) {i : ℕ}
    (hi : i < params.length) {query : String} {result : Int32} :
    Passed.param { query, nParams := count, values := some p.values, lengths := some p.lengths,
                   formats := some p.formats, resultFormat := result } i = params[i]? := by
  have hle : params.length ≤ 256 := hfew.trans (by decide)
  have hparam := List.getElem?_eq_getElem hi
  have hvalue := h.values.2 hle i hi
  have hlen := h.lengths.2 hle i hi
  have hformat := h.formats.2 hle i hi
  rw [hparam] at hvalue hlen hformat ⊢
  simp [Passed.param, hvalue, hlen, hformat]

end

section
variable {m : Mode} {libpq : Libpq} {fuel : ℕ} {st : St} {query : String} {result count : Int32}
  {args : List (VaArg π)} {o : Outcome π} {params : List (Param π)}

/-- With a connection the parameters are packed, and the query is sent with them. -/
theorem queryParams_of_conn (hconn : st.conn = true) :
    korePgsqlVQueryParams m libpq fuel st query result count args =
      (do
        let passed ← pack fuel query result count args
        return { st := Results.korePgsqlQuery m st libpq.executed libpq.sent
                 error := if libpq.succeeds m then none else some libpq.errorMessage
                 ok := libpq.succeeds m
                 passed := some passed }) := by
  rw [korePgsqlVQueryParams, if_neg (by rw [hconn]; decide)]

/-- What libpq is given for at most 255 parameters. -/
theorem exists_passed (hlength : count.toInt = params.length) (hfew : params.length ≤ 255)
    (hfuel : params.length < fuel) :
    ∃ passed, pack fuel query result count (params.flatMap Param.args) = .ok passed ∧
      passed.nParams = count ∧ ∀ i < params.length, passed.param i = params[i]? := by
  unfold pack
  split
  case isTrue =>
    obtain ⟨p, hends, hpacked⟩ := exists_packed hlength hfew
    refine ⟨{ query, nParams := count, values := p.values, lengths := p.lengths,
              formats := p.formats, resultFormat := result }, ?_, rfl, fun i hi => ?_⟩
    · rw [hends.run hfuel]
      rfl
    · exact hpacked.param_eq hfew hi
  case isFalse hcount =>
    refine ⟨_, rfl, rfl, fun i hi => absurd ?_ hcount⟩
    rw [Int32.lt_iff_toInt_lt, hlength]
    exact Nat.cast_pos.2 (Nat.zero_lt_of_lt hi)

/-- **When the parameters are packed.** For a query with a connection, the loop ends after a round for each
parameter and libpq is given them just if there are at most 255. -/
theorem packs_iff (m : Mode) (libpq : Libpq) (query : String) (result : Int32)
    (hconn : st.conn = true) (hlength : count.toInt = params.length) :
    Packs m libpq st query result count params ↔ params.length ≤ 255 := by
  constructor
  · intro h
    obtain ⟨p, -, hguard⟩ := h.ends
    by_contra hmany
    exact hguard (guard_of_lt (by omega) p)
  · intro hfew
    obtain ⟨p, hends, -⟩ := exists_packed hlength hfew
    refine ⟨⟨p, hends⟩, fun fuel hfuel => ?_⟩
    obtain ⟨passed, hpack, hcount, hparam⟩ := exists_passed hlength hfew hfuel
    have hreturn : korePgsqlVQueryParams m libpq fuel st query result count
        (params.flatMap Param.args) = .ok
          { st := Results.korePgsqlQuery m st libpq.executed libpq.sent
            error := if libpq.succeeds m then none else some libpq.errorMessage
            ok := libpq.succeeds m
            passed := some passed } := by
      rw [queryParams_of_conn hconn, hpack]
      rfl
    exact ⟨_, passed, hreturn, rfl, hcount, hparam⟩

/-- A query with two parameters. -/
theorem packs_iff_two : Packs { request := false, sync := false }
    { executed := none, sent := true, errorMessage := "" } {} "SELECT $1, $2" 0 2
    [{ value := some "a", length := 1, format := 0 }, { value := none, length := 0, format := 0 }] :=
  (packs_iff _ _ _ _ rfl (by decide)).2 (by decide)

theorem pos_of_many (hmany : 255 < count.toInt) : 0 < count := by
  rw [Int32.lt_iff_toInt_lt]
  exact lt_trans (by decide) hmany

/-- With more than 255 parameters the call does not return, whatever comes after them. -/
theorem queryParams_ne_ok (hconn : st.conn = true) (hmany : 255 < count.toInt) :
    korePgsqlVQueryParams m libpq fuel st query result count args ≠ .ok o := by
  rw [queryParams_of_conn hconn, pack, if_pos (pos_of_many hmany)]
  intro h
  obtain ⟨passed, hpack, -⟩ := bind_eq_ok.1 h
  obtain ⟨p, hrun, -⟩ := bind_eq_ok.1 hpack
  exact While.run_ne_ok (guard_of_lt hmany) hrun

/-- 256 parameters: the index is below 256 always, so the loop does not end. -/
theorem many_params_not_packed : ¬ Packs { request := false, sync := false }
      { executed := none, sent := true, errorMessage := "" } {} "SELECT 1" 0 256
      (List.replicate 256 { value := some "a", length := 1, format := 0 }) ∧
    ∀ fuel o, korePgsqlQueryParams { request := false, sync := false }
      { executed := none, sent := true, errorMessage := "" } fuel {} "SELECT 1" 0 256
      ((List.replicate 256 { value := some "a", length := 1, format := 0 }).flatMap Param.args) ≠
        .ok o := by
  have hmany : 255 < (256 : Int32).toInt := by decide
  refine ⟨fun h => ?_, fun fuel o => queryParams_ne_ok rfl hmany⟩
  obtain ⟨p, -, hguard⟩ := h.ends
  exact hguard (guard_of_lt hmany p)

/-- It reads an argument that was not given. -/
theorem queryParams_eq_error (hconn : st.conn = true) (hlength : count.toInt = params.length)
    (hmany : 255 < params.length) (hfuel : params.length < fuel) :
    korePgsqlVQueryParams m libpq fuel st query result count (params.flatMap Param.args) =
      .error .argument := by
  have hcount : 255 < count.toInt := by omega
  have hrun : While.run (Packing.Guard count) Packing.round .fuel fuel
      (.start count (params.flatMap Param.args)) = .error .argument :=
    While.run_eq_error (fun k hk p h => ⟨guard_of_lt hcount p, Packed.round h hk⟩)
      (fun p h => ⟨guard_of_lt hcount p, Packed.round_eq_error h⟩) (packed_start hlength) hfuel
  rw [queryParams_of_conn hconn, pack, if_pos (pos_of_many hcount), hrun]
  rfl

/-- The call is a query, as far as its results go. -/
theorem step_of_queryParams (hcall : st.mayCall)
    (h : korePgsqlVQueryParams m libpq fuel st query result count args = .ok o) :
    Results.step m st (.query libpq.executed libpq.sent) = some o.st := by
  have hstep : Results.step m st (.query libpq.executed libpq.sent) =
      some (Results.korePgsqlQuery m st libpq.executed libpq.sent) := if_pos hcall
  cases hconn : st.conn with
  | false =>
      rw [korePgsqlVQueryParams, if_pos hconn] at h
      cases h
      rw [hstep]
      unfold Results.korePgsqlQuery
      rw [if_pos hconn]
  | true =>
      rw [queryParams_of_conn hconn] at h
      obtain ⟨passed, -, hpassed⟩ := bind_eq_ok.1 h
      cases hpassed
      exact hstep

end

end KoreWebsocket.Pgsql
