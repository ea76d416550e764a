import KoreWebsocket.Lib.Rejection
import KoreWebsocket.Rooms.World

/-!
# Random ids (`mediasoup/src/mediasoup.c`, `mediasoup_1/src/soup_utils.c`)

`rand32` draws from `rand()` until the value is below a limit, and takes its remainder. The two files have
the same text but for one sign: `mediasoup.c` subtracts from the number of raw values what is left over by
the range, and `soup_utils.c` adds it. There every raw value is accepted, and the results are uniform only
when nothing is left over (`uniform_iff`). `IsRandom` are the values of `random_u32`
(`isRandom_iff_exists_raws`).
-/

namespace KoreWebsocket.Rooms

/-- `RAND_MAX`. -/
def randMax : ℕ := 2147483647

/-- What `rand()` returns. -/
abbrev Rand := Fin (randMax + 1)

/-- `uint32_t randVal=rand()`. -/
def randVal (x : Rand) : UInt32 := UInt32.ofNat x.val

/-- `uint32_t range=(end-begin)+1`. -/
def range (begin «end» : UInt32) : UInt32 := («end» - begin) + 1

/-- The files that have `rand32`. -/
inductive Copy
  | mediasoup
  | soupUtils
  deriving DecidableEq, Repr

namespace Copy

/-- `uint32_t limit`. -/
def limit (copy : Copy) (range : UInt32) : UInt32 :=
  let values := UInt64.ofNat randMax + 1
  match copy with
  | mediasoup => (values - values % range.toUInt64).toUInt32
  | soupUtils => (values + values % range.toUInt64).toUInt32

/-- `rand32`. There is no result when what `rand()` returns is used up first. -/
def rand32 (copy : Copy) (begin «end» : UInt32) : List Rand → Option UInt32
  | [] => none
  | x :: raws =>
      if randVal x ≥ copy.limit (range begin «end») then copy.rand32 begin «end» raws
      else some ((randVal x % range begin «end») + begin)

/-- `random_u32`. -/
def randomU32 (copy : Copy) : List Rand → Option UInt32 := copy.rand32 10000000 99999999

/-- The raw value ends the loop. -/
def Accepts (copy : Copy) (begin «end» : UInt32) (x : Rand) : Prop :=
  randVal x < copy.limit (range begin «end»)

instance (copy : Copy) (begin «end» : UInt32) : DecidablePred (copy.Accepts begin «end») :=
  fun _ => inferInstanceAs (Decidable (_ < _))

end Copy

/-- The result of a raw value. -/
def value (begin «end» : UInt32) (x : Rand) : UInt32 := (randVal x % range begin «end») + begin

/-- The ids that may be drawn. -/
def interval (begin «end» : UInt32) : Set UInt32 := {z | begin ≤ z ∧ z ≤ «end»}

/-- Some raw value is accepted, every result lies in the interval, and each is that of as many accepted raw
values as any other. -/
structure Uniform (copy : Copy) (begin «end» : UInt32) : Prop where
  nonempty : ∃ x, copy.Accepts begin «end» x
  bounds : ∀ raws z, copy.rand32 begin «end» raws = some z → z ∈ interval begin «end»
  fair : Rejection.Fair (copy.Accepts begin «end») (value begin «end») (interval begin «end»)

section
variable {copy : Copy} {begin «end» : UInt32} {raws : List Rand}

/-- The loop is a draw by rejection. -/
theorem rand32_eq_result : copy.rand32 begin «end» raws =
    Rejection.result (copy.Accepts begin «end») (value begin «end») raws := by
  induction raws with
  | nil => rfl
  | cons x raws ih =>
      by_cases hx : copy.Accepts begin «end» x
      · rw [Copy.rand32, Rejection.result_cons_of_accept hx, if_neg (UInt32.not_le.2 hx)]
        rfl
      · rw [Copy.rand32, Rejection.result_cons_of_not hx, if_pos (UInt32.not_lt.1 hx), ih]

/-! ## The machine arithmetic -/

theorem toNat_randVal (x : Rand) : (randVal x).toNat = x.val := by
  have hlt : x.val < randMax + 1 := x.isLt
  unfold randMax at hlt
  rw [randVal, UInt32.toNat_ofNat', Nat.mod_eq_of_lt (by omega)]

/-- So many raw values are accepted. -/
def Copy.accepted (copy : Copy) (r : ℕ) : ℕ :=
  match copy with
  | mediasoup => randMax + 1 - (randMax + 1) % r
  | soupUtils => randMax + 1

/-- The numbers below the limit are those below `accepted`, as far as `rand()` returns them. -/
theorem lt_limit_iff {range : UInt32} (hpos : 0 < range.toNat) (hle : range.toNat ≤ randMax + 1)
    (x : Rand) : x.val < (copy.limit range).toNat ↔ x.val < copy.accepted range.toNat := by
  have hvalues : (UInt64.ofNat randMax + 1).toNat = randMax + 1 := rfl
  have hrest : ((UInt64.ofNat randMax + 1) % range.toUInt64).toNat = (randMax + 1) % range.toNat := by
    rw [UInt64.toNat_mod, hvalues, UInt32.toNat_toUInt64]
  have hlt : (randMax + 1) % range.toNat < randMax + 1 := (Nat.mod_lt _ hpos).trans_le hle
  have hx : x.val < randMax + 1 := x.isLt
  cases copy with
  | mediasoup =>
      have hlimit : (Copy.mediasoup.limit range).toNat = Copy.mediasoup.accepted range.toNat := by
        unfold Copy.limit Copy.accepted
        dsimp only
        rw [UInt64.toNat_toUInt32, UInt64.toNat_sub_of_le, hvalues, hrest]
        · exact Nat.mod_eq_of_lt (Nat.lt_of_le_of_lt (Nat.sub_le _ _) (by decide))
        · rw [UInt64.le_iff_toNat_le, hvalues, hrest]
          exact hlt.le
      rw [hlimit]
  | soupUtils =>
      have hlimit : (Copy.soupUtils.limit range).toNat =
          randMax + 1 + (randMax + 1) % range.toNat := by
        unfold Copy.limit
        dsimp only
        unfold randMax at hlt
        rw [UInt64.toNat_toUInt32, UInt64.toNat_add, hvalues, hrest]
        unfold randMax
        omega
      rw [hlimit]
      exact iff_of_true (Nat.lt_add_right _ hx) hx

/-- No more values are accepted than `rand` has. -/
theorem Copy.accepted_le (copy : Copy) (r : ℕ) : copy.accepted r ≤ randMax + 1 := by
  cases copy with
  | mediasoup => exact Nat.sub_le _ _
  | soupUtils => exact le_rfl

/-- The number of accepted values is a multiple of the interval in one copy, and in the other if all values
of `rand` are one. -/
theorem dvd_accepted_iff {r : ℕ} : r ∣ copy.accepted r ↔ copy = .mediasoup ∨ r ∣ randMax + 1 := by
  cases copy with
  | mediasoup => exact iff_of_true (Nat.dvd_sub_mod _) (.inl rfl)
  | soupUtils => exact ⟨.inr, fun h => h.resolve_left nofun⟩

/-- At least one value is accepted for each number. -/
theorem Copy.le_accepted (copy : Copy) {r : ℕ} (hpos : 0 < r) (hle : r ≤ randMax + 1) :
    r ≤ copy.accepted r := by
  cases copy with
  | mediasoup =>
      have hlt : (randMax + 1) % r < randMax + 1 := (Nat.mod_lt _ hpos).trans_le hle
      exact Nat.le_of_dvd (Nat.sub_pos_of_lt hlt) (Nat.dvd_sub_mod _)
  | soupUtils => exact hle

/-- What is rejected is less than the length of the interval. -/
theorem Copy.rejected_lt (copy : Copy) {r : ℕ} (hpos : 0 < r) (hle : r ≤ randMax + 1) :
    randMax + 1 - copy.accepted r < r := by
  have hlt : (randMax + 1) % r < r := Nat.mod_lt _ hpos
  cases copy with
  | mediasoup => rwa [accepted, Nat.sub_sub_self (hlt.le.trans hle)]
  | soupUtils => rwa [accepted, Nat.sub_self]

/-! ## The ids of an interval -/

/-- An id of the interval is so far from its start. -/
theorem offset_lt {z : UInt32} (hz : z ∈ interval begin «end») :
    z.toNat - begin.toNat < «end».toNat - begin.toNat + 1 := by
  have hend := UInt32.le_iff_toNat_le.1 hz.2
  omega

/-- Every offset within the interval is that of a number. -/
theorem exists_offset (hle : begin ≤ «end») {j : ℕ} (hj : j < «end».toNat - begin.toNat + 1) :
    ∃ z ∈ interval begin «end», z.toNat - begin.toNat = j := by
  have hend := «end».toNat_lt
  have hle' := UInt32.le_iff_toNat_le.1 hle
  have htoNat : (UInt32.ofNat (begin.toNat + j)).toNat = begin.toNat + j := by
    rw [UInt32.toNat_ofNat']
    exact Nat.mod_eq_of_lt (by omega)
  refine ⟨UInt32.ofNat (begin.toNat + j), ⟨?_, ?_⟩, ?_⟩
  · rw [UInt32.le_iff_toNat_le, htoNat]
    exact Nat.le_add_right _ _
  · rw [UInt32.le_iff_toNat_le, htoNat]
    omega
  · rw [htoNat, Nat.add_sub_cancel_left]

section
variable (hle : begin ≤ «end») (hrange : «end».toNat - begin.toNat + 1 ≤ randMax + 1)
include hle hrange

/-- The length of the interval. -/
theorem toNat_range : (range begin «end»).toNat = «end».toNat - begin.toNat + 1 := by
  unfold randMax at hrange
  rw [range, UInt32.toNat_add, UInt32.toNat_sub_of_le _ _ hle]
  exact Nat.mod_eq_of_lt (by simp; omega)

/-- A value is accepted if it is below the limit. -/
theorem accepts_iff (x : Rand) :
    copy.Accepts begin «end» x ↔ x.val < copy.accepted («end».toNat - begin.toNat + 1) := by
  have hr := toNat_range hle hrange
  rw [Copy.Accepts, UInt32.lt_iff_toNat_lt, toNat_randVal, lt_limit_iff, hr]
  · rw [hr]
    exact Nat.succ_pos _
  · rw [hr]
    exact hrange

/-- A result, as a number. -/
theorem toNat_value (x : Rand) :
    (value begin «end» x).toNat = begin.toNat + x.val % («end».toNat - begin.toNat + 1) := by
  have hmod : x.val % («end».toNat - begin.toNat + 1) < «end».toNat - begin.toNat + 1 :=
    Nat.mod_lt _ (Nat.succ_pos _)
  have hend := «end».toNat_lt
  have hle' := UInt32.le_iff_toNat_le.1 hle
  rw [value, UInt32.toNat_add, UInt32.toNat_mod, toNat_randVal, toNat_range hle hrange, Nat.add_comm]
  exact Nat.mod_eq_of_lt (by omega)

/-- Every result lies in the interval. -/
theorem value_mem (x : Rand) : value begin «end» x ∈ interval begin «end» := by
  have hmod : x.val % («end».toNat - begin.toNat + 1) < «end».toNat - begin.toNat + 1 :=
    Nat.mod_lt _ (Nat.succ_pos _)
  have hle' := UInt32.le_iff_toNat_le.1 hle
  constructor
  · rw [UInt32.le_iff_toNat_le, toNat_value hle hrange]
    exact Nat.le_add_right _ _
  · rw [UInt32.le_iff_toNat_le, toNat_value hle hrange]
    omega

/-- The number that a value gives. -/
theorem value_eq_iff {z : UInt32} (hz : z ∈ interval begin «end») (x : Rand) :
    value begin «end» x = z ↔
      x.val % («end».toNat - begin.toNat + 1) = z.toNat - begin.toNat := by
  have hbegin := UInt32.le_iff_toNat_le.1 hz.1
  rw [← UInt32.toNat_inj, toNat_value hle hrange]
  omega

/-- The raw values that give a result are those below `accepted` with its remainder. -/
theorem card_fiber {z : UInt32} (hz : z ∈ interval begin «end») :
    (Rejection.fiber (copy.Accepts begin «end») (value begin «end») z).card =
      ({x ∈ Finset.range (copy.accepted («end».toNat - begin.toNat + 1)) |
        x % («end».toNat - begin.toNat + 1) = z.toNat - begin.toNat}).card := by
  rw [← Finset.card_map Fin.valEmbedding]
  refine congrArg Finset.card (Finset.ext fun n => ?_)
  rw [Finset.mem_map, Finset.mem_filter, Finset.mem_range]
  constructor
  · rintro ⟨x, hx, rfl⟩
    rw [Rejection.mem_fiber, accepts_iff hle hrange, value_eq_iff hle hrange hz] at hx
    exact hx
  · intro hn
    refine ⟨⟨n, hn.1.trans_le (copy.accepted_le _)⟩, ?_, rfl⟩
    rw [Rejection.mem_fiber, accepts_iff hle hrange, value_eq_iff hle hrange hz]
    exact hn

/-- The results are fair just if what is accepted is a multiple of the length of the interval. -/
theorem fair_iff :
    Rejection.Fair (copy.Accepts begin «end») (value begin «end») (interval begin «end») ↔
      copy = .mediasoup ∨ «end».toNat - begin.toNat + 1 ∣ randMax + 1 := by
  rw [← dvd_accepted_iff, ← Rejection.fair_mod_iff (Nat.succ_pos _)]
  constructor
  · intro h j hj k hk
    obtain ⟨y, hy, rfl⟩ := exists_offset hle hj
    obtain ⟨z, hz, rfl⟩ := exists_offset hle hk
    rw [← card_fiber hle hrange hy, ← card_fiber hle hrange hz]
    exact h y hy z hz
  · intro h y hy z hz
    rw [card_fiber hle hrange hy, card_fiber hle hrange hz]
    exact h _ (offset_lt hy) _ (offset_lt hz)

/-- Each id of the interval is that of an accepted raw value. -/
theorem exists_accepts {z : UInt32} (hz : z ∈ interval begin «end») :
    ∃ x, copy.Accepts begin «end» x ∧ value begin «end» x = z := by
  have hlt := offset_lt hz
  refine ⟨⟨z.toNat - begin.toNat, hlt.trans_le hrange⟩, ?_, ?_⟩
  · rw [accepts_iff hle hrange]
    exact hlt.trans_le (copy.le_accepted (Nat.succ_pos _) hrange)
  · rw [value_eq_iff hle hrange hz]
    exact Nat.mod_eq_of_lt hlt

/-- The interval is what can be drawn. -/
theorem mem_interval_iff_exists_raws {z : UInt32} :
    z ∈ interval begin «end» ↔ ∃ raws, copy.rand32 begin «end» raws = some z := by
  constructor
  · intro hz
    obtain ⟨x, hx, hvalue⟩ := @exists_accepts copy begin «end» hle hrange z hz
    refine ⟨[x], ?_⟩
    rw [rand32_eq_result, Rejection.result_cons_of_accept hx, hvalue]
  · rintro ⟨raws, hz⟩
    rw [rand32_eq_result] at hz
    obtain ⟨x, -, -, rfl⟩ := Rejection.exists_of_result hz
    exact value_mem hle hrange x

end

/-- **When random ids are uniform**: in `mediasoup.c` for every interval, and in `soup_utils.c` for those
whose length divides the number of raw values. -/
theorem uniform_iff (copy : Copy) {begin «end» : UInt32} (hle : begin ≤ «end»)
    (hrange : «end».toNat - begin.toNat + 1 ≤ randMax + 1) :
    Uniform copy begin «end» ↔
      copy = .mediasoup ∨ «end».toNat - begin.toNat + 1 ∣ randMax + 1 := by
  rw [← fair_iff hle hrange]
  refine ⟨Uniform.fair, fun hfair => ⟨?_, fun raws z hz => ?_, hfair⟩⟩
  · obtain ⟨z, hz, -⟩ := exists_offset hle (Nat.succ_pos _)
    obtain ⟨x, hx, -⟩ := exists_accepts hle hrange hz
    exact ⟨x, hx⟩
  · exact (mem_interval_iff_exists_raws hle hrange).2 ⟨raws, hz⟩

/-- The ids of `random_u32` in `mediasoup.c`, and an interval of eight ids in `soup_utils.c`. -/
theorem uniform_iff_ids : Uniform .mediasoup 10000000 99999999 ∧ Uniform .soupUtils 0 7 :=
  ⟨(uniform_iff .mediasoup (by decide) (by decide)).2 (.inl rfl),
    (uniform_iff .soupUtils (by decide) (by decide)).2 (.inr (by decide))⟩

/-- In `soup_utils.c` the first id of `random_u32` is that of 24 accepted raw values, the last of 23. -/
theorem randomU32_biased :
    (Rejection.fiber (Copy.soupUtils.Accepts 10000000 99999999) (value 10000000 99999999)
      10000000).card = 24 ∧
    (Rejection.fiber (Copy.soupUtils.Accepts 10000000 99999999) (value 10000000 99999999)
      99999999).card = 23 ∧
    ¬ Uniform .soupUtils 10000000 99999999 := by
  have hfirst : (10000000 : UInt32) ∈ interval 10000000 99999999 := ⟨by decide, by decide⟩
  have hlast : (99999999 : UInt32) ∈ interval 10000000 99999999 := ⟨by decide, by decide⟩
  have hcount : (Rejection.fiber (Copy.soupUtils.Accepts 10000000 99999999)
      (value 10000000 99999999) 10000000).card = 24 := by
    rw [card_fiber (by decide) (by decide) hfirst, Rejection.card_mod_eq (by decide) (by decide)]
    rfl
  have hcount' : (Rejection.fiber (Copy.soupUtils.Accepts 10000000 99999999)
      (value 10000000 99999999) 99999999).card = 23 := by
    rw [card_fiber (by decide) (by decide) hlast, Rejection.card_mod_eq (by decide) (by decide)]
    rfl
  refine ⟨hcount, hcount', fun huniform => ?_⟩
  have hsame := huniform.fair _ hfirst _ hlast
  rw [hcount, hcount'] at hsame
  cases hsame

end

/-! ## `random_u32` -/

/-- The ids of eight digits. -/
theorem mem_interval_iff_isRandom {z : UInt32} : z ∈ interval 10000000 99999999 ↔ IsRandom z :=
  and_congr UInt32.le_iff_toNat_le UInt32.le_iff_toNat_le

/-- The values of `random_u32`, in both files. -/
theorem isRandom_iff_exists_raws (copy : Copy) (z : UInt32) :
    IsRandom z ↔ ∃ raws, copy.randomU32 raws = some z := by
  rw [← mem_interval_iff_isRandom]
  exact mem_interval_iff_exists_raws (by decide) (by decide)

/-- **Uniform ids.** In `mediasoup.c` as many sequences of `n` raw values end with one id as with
another. -/
theorem card_randomU32_eq {y z : UInt32} (hy : IsRandom y) (hz : IsRandom z) (n : ℕ) :
    ({xs : Fin n → Rand | Copy.mediasoup.randomU32 (List.ofFn xs) = some y} : Finset _).card =
      ({xs : Fin n → Rand | Copy.mediasoup.randomU32 (List.ofFn xs) = some z} : Finset _).card := by
  have hfair : Rejection.Fair (Copy.mediasoup.Accepts 10000000 99999999) (value 10000000 99999999)
      (interval 10000000 99999999) := (fair_iff (by decide) (by decide)).2 (.inl rfl)
  simp only [Copy.randomU32, rand32_eq_result]
  exact hfair.card_runs_eq (mem_interval_iff_isRandom.2 hy) (mem_interval_iff_isRandom.2 hz)

/-- Less than half of the raw values are rejected. -/
theorem card_not_accepts_lt (copy : Copy) (begin «end» : UInt32) (hle : begin ≤ «end»)
    (hrange : «end».toNat - begin.toNat + 1 ≤ randMax + 1) :
    2 * ({x | ¬ copy.Accepts begin «end» x} : Finset Rand).card < randMax + 1 := by
  have hcard : ({x | copy.Accepts begin «end» x} : Finset Rand).card =
      copy.accepted («end».toNat - begin.toNat + 1) := by
    simp only [accepts_iff hle hrange]
    rw [Fin.card_filter_val_lt, Nat.min_eq_right (copy.accepted_le _)]
  have hsum := Finset.card_filter_add_card_filter_not (s := (Finset.univ : Finset Rand))
    (copy.Accepts begin «end»)
  rw [hcard, Finset.card_univ, Fintype.card_fin] at hsum
  have hpos : 0 < «end».toNat - begin.toNat + 1 := Nat.succ_pos _
  have hrest := copy.rejected_lt hpos hrange
  have hmany := copy.le_accepted hpos hrange
  omega

/-- **The loop ends.** At most one in `2 ^ n` of the sequences of `n` raw values is rejected whole. -/
theorem card_rejected_le (copy : Copy) (n : ℕ) :
    2 ^ n * ({xs : Fin n → Rand | copy.randomU32 (List.ofFn xs) = none} : Finset _).card ≤
      (randMax + 1) ^ n := by
  have hlt := card_not_accepts_lt copy 10000000 99999999 (by decide) (by decide)
  simp only [Copy.randomU32, rand32_eq_result]
  rw [Rejection.card_exhausted, ← Nat.mul_pow]
  exact Nat.pow_le_pow_left hlt.le n

end KoreWebsocket.Rooms
