import KoreWebsocket.Lib.Window

/-!
# The rate of a stream (`RTC::RateCalculator`)

The bytes of the last `windowSize` milliseconds are counted in a circular buffer with an item for each
millisecond. `oldestTime` is the time before the oldest item, so the item before `oldestIndex` is the one of
`oldestTime + windowSize`, which is to be the time of the call. `Shows` says that the buffer counts a
history, whatever the time of the call is.

`Reset(now)` sets `oldestTime` to `now - windowSize`, and `RemoveOldData` calls it with the new
`oldestTime`. So after a pause the item for the call is one `windowSize` too early, and the next call
removes it. What is counted is right just if a call after a pause counts nothing, or the next one comes
when that is past (`countedAfterEach_iff`).
-/

namespace KoreWebsocket.Rtp

open Window

/-- `RateCalculator`, with the counts of the items of its buffer. -/
structure RateCalculator where
  buffer : List UInt64
  oldestTime : UInt64 := 0
  oldestIndex : UInt32 := 0
  totalCount : UInt64 := 0
  windowSize : UInt64 := 1000

namespace RateCalculator

variable (c : RateCalculator)

/-- `RateCalculator::Reset(uint64_t)`. -/
def reset (now : UInt64) : RateCalculator :=
  { c with
    buffer := List.replicate c.windowSize.toNat 0
    totalCount := 0
    oldestIndex := 0
    oldestTime := now - c.windowSize }

/-- `RateCalculator::RateCalculator` at a time. -/
def create (windowSize now : UInt64) : RateCalculator := reset { buffer := [], windowSize } now

/-- A round of the loop in `RateCalculator::RemoveOldData`. -/
def removeOldest : RateCalculator :=
  { c with
    totalCount := c.totalCount - c.buffer.getD c.oldestIndex.toNat 0
    buffer := c.buffer.set c.oldestIndex.toNat 0
    oldestIndex :=
      if (c.oldestIndex + 1).toUInt64 ≥ c.windowSize then 0 else c.oldestIndex + 1
    oldestTime := c.oldestTime + 1 }

/-- The loop, which runs at most as often as `newOldestTime` is ahead. -/
def removeWhile (newOldestTime : UInt64) : ℕ → RateCalculator → RateCalculator
  | 0, c => c
  | rounds + 1, c =>
      if c.oldestTime < newOldestTime then removeWhile newOldestTime rounds c.removeOldest else c

/-- `RateCalculator::RemoveOldData`. -/
def removeOldData (now : UInt64) : RateCalculator :=
  let newOldestTime := now - c.windowSize
  if newOldestTime < c.oldestTime then c
  else if newOldestTime = c.oldestTime then c
  else if newOldestTime > c.oldestTime + c.windowSize then c.reset newOldestTime
  else
    { removeWhile newOldestTime (newOldestTime - c.oldestTime).toNat c with
      oldestTime := newOldestTime }

/-- The index before the oldest index. -/
def lastIndex : UInt32 :=
  let offset := (c.windowSize - 1).toUInt32
  let index := c.oldestIndex + offset
  if index.toUInt64 ≥ c.windowSize then (index.toUInt64 - c.windowSize).toUInt32 else index

/-- The data that `RateCalculator::Update` sets. -/
def setData (size : UInt64) : RateCalculator :=
  { c with
    buffer := c.buffer.modify c.lastIndex.toNat (· + size)
    totalCount := c.totalCount + size }

/-- `RateCalculator::Update`. -/
def update (size now : UInt64) : RateCalculator :=
  if now < c.oldestTime then c else (c.removeOldData now).setData size

/-- What `RateCalculator::GetRate` leaves. -/
def getRate (now : UInt64) : RateCalculator := c.removeOldData now

end RateCalculator

/-! ## Calls -/

/-- A call of a calculator. -/
inductive RateCall
  | update (size now : UInt64)
  | getRate (now : UInt64)

namespace RateCall

def now : RateCall → UInt64
  | update _ now => now
  | getRate now => now

/-- `GetRate` counts nothing. -/
def size : RateCall → UInt64
  | update size _ => size
  | getRate _ => 0

/-- The time and the size of a call. -/
def event (call : RateCall) : ℕ × UInt64 := (call.now.toNat, call.size)

end RateCall

namespace RateCalculator

/-- A call. -/
def step (c : RateCalculator) : RateCall → RateCalculator
  | .update size now => c.update size now
  | .getRate now => c.getRate now

/-- The total is that of the buffer, and what was counted in the window that ends at a time. -/
structure Counted (c : RateCalculator) (history : List (ℕ × UInt64)) (now : UInt64) : Prop where
  buffer : c.totalCount = c.buffer.sum
  window : c.totalCount = sizeIn history (now.toNat - c.windowSize.toNat) now.toNat

/-- It is so after each call. -/
def CountedAfterEach : RateCalculator → List (ℕ × UInt64) → List RateCall → Prop
  | _, _, [] => True
  | c, history, call :: calls =>
      Counted (c.step call) (history ++ [call.event]) call.now ∧
        CountedAfterEach (c.step call) (history ++ [call.event]) calls

/-- The calls come one after the other. -/
def InOrder : (last : ℕ) → List RateCall → Prop
  | _, [] => True
  | last, call :: calls => last ≤ call.now.toNat ∧ InOrder call.now.toNat calls

/-- No call counts something after a pause, unless the next one comes after a pause too. A call comes after
a pause if more than `windowSize` has gone by since the last one; a later call than one after a pause is
treated as one after a pause. `pause` and `counted` are those of the last call. -/
def Steady (windowSize : ℕ) : (last : ℕ) → (pause : Bool) → (counted : UInt64) → List RateCall → Prop
  | _, _, _, [] => True
  | last, pause, counted, call :: calls =>
      (pause = true → counted = 0 ∨ last + windowSize ≤ call.now.toNat) ∧
        Steady windowSize call.now.toNat
          (if pause then last < call.now.toNat else last + windowSize < call.now.toNat) call.size calls

/-! ## What the buffer shows -/

/-- The buffer counts a history. -/
structure Shows (c : RateCalculator) (history : List (ℕ × UInt64)) : Prop where
  pos : 0 < c.windowSize.toNat
  le : c.windowSize.toNat ≤ 2 ^ 31
  index : c.oldestIndex.toNat < c.windowSize.toNat
  window : c.buffer.rotate c.oldestIndex.toNat =
    counts history c.oldestTime.toNat c.windowSize.toNat
  past : ∀ event ∈ history, event.1 ≤ c.oldestTime.toNat + c.windowSize.toNat
  total : c.totalCount = c.buffer.sum

section
variable {c : RateCalculator} {history : List (ℕ × UInt64)}

/-- The buffer has a place for every millisecond of the window. -/
theorem Shows.length (h : Shows c history) : c.buffer.length = c.windowSize.toNat := by
  rw [← List.length_rotate c.buffer c.oldestIndex.toNat, h.window, length_counts]

/-- The total is what the history counts. -/
theorem Shows.totalCount (h : Shows c history) : c.totalCount =
    sizeIn history c.oldestTime.toNat (c.oldestTime.toNat + c.windowSize.toNat) := by
  rw [h.total, ← sum_counts, ← h.window]
  exact (List.rotate_perm c.buffer c.oldestIndex.toNat).symm.sum_eq

/-- An empty buffer counts a history that is past. -/
theorem shows_reset (hpos : 0 < c.windowSize.toNat) (hle : c.windowSize.toNat ≤ 2 ^ 31) {now : UInt64}
    (h : ∀ event ∈ history, event.1 ≤ (now - c.windowSize).toNat) : Shows (c.reset now) history where
  pos := hpos
  le := hle
  index := hpos
  window := (List.rotate_zero _).trans (counts_eq_replicate h).symm
  past := fun event hmem => (h event hmem).trans (Nat.le_add_right _ _)
  total := by
    change 0 = (List.replicate c.windowSize.toNat (0 : UInt64)).sum
    rw [List.sum_replicate, smul_zero]

theorem toNat_next (h : Shows c history) : (c.oldestIndex + 1).toNat = c.oldestIndex.toNat + 1 := by
  have hindex := h.index
  have hle := h.le
  rw [UInt32.toNat_add]
  exact Nat.mod_eq_of_lt (by change c.oldestIndex.toNat + 1 < 2 ^ 32; omega)

/-- The index after the oldest, around the end of the buffer. -/
theorem removeOldest_index (h : Shows c history) :
    c.oldestIndex.toNat + 1 = c.windowSize.toNat ∧ c.removeOldest.oldestIndex.toNat = 0 ∨
      c.oldestIndex.toNat + 1 < c.windowSize.toNat ∧
        c.removeOldest.oldestIndex.toNat = c.oldestIndex.toNat + 1 := by
  have hindex := h.index
  have hnext := toNat_next h
  have hremoved : c.removeOldest.oldestIndex =
      if (c.oldestIndex + 1).toUInt64 ≥ c.windowSize then 0 else c.oldestIndex + 1 := rfl
  by_cases hge : (c.oldestIndex + 1).toUInt64 ≥ c.windowSize
  · rw [if_pos hge] at hremoved
    have hge := UInt64.le_iff_toNat_le.1 hge
    rw [UInt32.toNat_toUInt64] at hge
    exact .inl ⟨by omega, by rw [hremoved]; rfl⟩
  · rw [if_neg hge] at hremoved
    have hlt := UInt64.lt_iff_toNat_lt.1 (UInt64.not_le.1 hge)
    rw [UInt32.toNat_toUInt64] at hlt
    exact .inr ⟨by omega, by rw [hremoved, hnext]⟩

/-- **A round of the loop.** -/
theorem Shows.removeOldest (h : Shows c history) (hlt : c.oldestTime.toNat + 1 < 2 ^ 64) :
    Shows c.removeOldest history ∧ c.removeOldest.oldestTime.toNat = c.oldestTime.toNat + 1 := by
  have htime : (c.oldestTime + 1).toNat = c.oldestTime.toNat + 1 := by
    rw [UInt64.toNat_add]
    exact Nat.mod_eq_of_lt hlt
  have hlength := h.length
  have hindex := h.index
  obtain ⟨n, hn⟩ := Nat.exists_eq_succ_of_ne_zero h.pos.ne'
  have hwindow := h.window
  rw [hn, counts_cons] at hwindow
  have hi : c.oldestIndex.toNat < c.buffer.length := by rw [hlength]; exact hindex
  have hnext := rotate_next hwindow hi 0
  have hpast : ∀ event ∈ history, event.1 ≤ c.oldestTime.toNat + (n + 1) := by
    intro event hmem
    rw [← Nat.succ_eq_add_one, ← hn]
    exact h.past event hmem
  rw [counts_advance hpast] at hnext
  have hhead : c.buffer.getD c.oldestIndex.toNat 0 =
      sizeIn history c.oldestTime.toNat (c.oldestTime.toNat + 1) := by
    rw [List.getD_eq_getElem?_getD, ← List.head?_rotate hi, hwindow]
    rfl
  have hrotate : c.removeOldest.buffer.rotate c.removeOldest.oldestIndex.toNat =
      counts history (c.oldestTime.toNat + 1) (n + 1) := by
    rw [← hnext]
    rcases removeOldest_index h with ⟨hround, hzero⟩ | ⟨-, hsucc⟩
    · have hround : c.oldestIndex.toNat + 1 = (c.buffer.set c.oldestIndex.toNat 0).length := by
        rw [List.length_set, hlength, hround]
      rw [hzero, hround, List.rotate_length]
      exact List.rotate_zero _
    · rw [hsucc]
      rfl
  have hsum : c.removeOldest.totalCount = c.removeOldest.buffer.sum := by
    rw [← (List.rotate_perm _ c.removeOldest.oldestIndex.toNat).sum_eq, hrotate]
    change c.totalCount - c.buffer.getD c.oldestIndex.toNat 0 = _
    rw [h.totalCount, hhead, ← sum_counts, hn, counts_cons, List.sum_cons, ← counts_advance hpast,
      List.sum_append, List.sum_singleton, add_zero, add_sub_cancel_left]
  refine ⟨⟨h.pos, h.le, ?_, ?_, fun event hmem => ?_, hsum⟩, htime⟩
  · rcases removeOldest_index h with ⟨-, hzero⟩ | ⟨hlt, hsucc⟩
    · rw [hzero]
      exact h.pos
    · rw [hsucc]
      exact hlt
  · rw [hrotate, ← htime, ← Nat.succ_eq_add_one, ← hn]
    rfl
  · have hmem := h.past event hmem
    change event.1 ≤ (c.oldestTime + 1).toNat + c.windowSize.toNat
    omega

/-- The loop removes what is older than a time. -/
theorem Shows.removeWhile (h : Shows c history) {newOldestTime : UInt64} {rounds : ℕ}
    (htime : c.oldestTime.toNat + rounds = newOldestTime.toNat) :
    Shows (c.removeWhile newOldestTime rounds) history ∧
      (c.removeWhile newOldestTime rounds).oldestTime = newOldestTime ∧
      (c.removeWhile newOldestTime rounds).windowSize = c.windowSize := by
  induction rounds generalizing c with
  | zero => exact ⟨h, UInt64.toNat_inj.1 htime, rfl⟩
  | succ rounds ih =>
      have hlt : c.oldestTime < newOldestTime := UInt64.lt_iff_toNat_lt.2 (by omega)
      have hmax := newOldestTime.toNat_lt
      obtain ⟨hremoved, hnext⟩ := h.removeOldest (by omega)
      rw [RateCalculator.removeWhile, if_pos hlt]
      exact ih hremoved (by omega)

/-- The last index is the one before the oldest. -/
theorem toNat_lastIndex (h : Shows c history) : c.lastIndex.toNat =
    (c.oldestIndex.toNat + (c.windowSize.toNat - 1)) % c.windowSize.toNat := by
  have hindex := h.index
  have hpos := h.pos
  have hle := h.le
  have hoffset : (c.windowSize - 1).toUInt32.toNat = c.windowSize.toNat - 1 := by
    have hone : (1 : UInt64) ≤ c.windowSize := UInt64.le_iff_toNat_le.2 hpos
    rw [UInt64.toNat_toUInt32, UInt64.toNat_sub_of_le _ _ hone]
    exact Nat.mod_eq_of_lt (by change c.windowSize.toNat - 1 < 2 ^ 32; omega)
  have hsum : (c.oldestIndex + (c.windowSize - 1).toUInt32).toNat =
      c.oldestIndex.toNat + (c.windowSize.toNat - 1) := by
    rw [UInt32.toNat_add, hoffset]
    exact Nat.mod_eq_of_lt (by omega)
  unfold lastIndex
  dsimp only
  split
  case isTrue hge =>
    have hround := UInt64.le_iff_toNat_le.1 hge
    rw [UInt32.toNat_toUInt64, hsum] at hround
    rw [UInt64.toNat_toUInt32, UInt64.toNat_sub_of_le _ _ hge, UInt32.toNat_toUInt64, hsum,
      Nat.mod_eq_sub_mod hround, Nat.mod_eq_of_lt (by omega), Nat.mod_eq_of_lt (by omega)]
  case isFalse hge =>
    have hround : c.oldestIndex.toNat + (c.windowSize.toNat - 1) < c.windowSize.toNat := by
      rw [← hsum, ← UInt32.toNat_toUInt64]
      exact UInt64.lt_iff_toNat_lt.1 (UInt64.not_le.1 hge)
    rw [hsum, Nat.mod_eq_of_lt hround]

/-- **Data are set** for the last item, whose time is that of the window's end. -/
theorem Shows.setData (h : Shows c history) (size : UInt64) :
    Shows (c.setData size)
      (history ++ [(c.oldestTime.toNat + c.windowSize.toNat, size)]) := by
  have hlength := h.length
  obtain ⟨n, hn⟩ := Nat.exists_eq_succ_of_ne_zero h.pos.ne'
  have hlast : c.lastIndex.toNat = (c.oldestIndex.toNat + n) % c.buffer.length := by
    rw [toNat_lastIndex h, hlength, hn, Nat.succ_sub_one]
  have hn' : n < c.buffer.length := by omega
  refine ⟨h.pos, h.le, h.index, ?_, fun event hmem => ?_, ?_⟩
  · change (c.buffer.modify c.lastIndex.toNat (· + size)).rotate c.oldestIndex.toNat = _
    rw [hlast, rotate_modify c.buffer _ _ hn', h.window]
    change _ = counts _ c.oldestTime.toNat c.windowSize.toNat
    rw [hn, Nat.succ_eq_add_one, counts_append]
  · rcases List.mem_append.1 hmem with hmem | hmem
    · exact h.past event hmem
    · rw [List.mem_singleton.1 hmem]
      exact le_refl _
  · change c.totalCount + size = (c.buffer.modify c.lastIndex.toNat (· + size)).sum
    rw [sum_modify_add, h.total]
    rw [hlast]
    exact Nat.mod_lt _ (by omega)

/-! ## A call -/

/-- The window keeps its size while data is removed. -/
@[simp] theorem windowSize_removeWhile (c : RateCalculator) (newOldestTime : UInt64) (rounds : ℕ) :
    (c.removeWhile newOldestTime rounds).windowSize = c.windowSize := by
  induction rounds generalizing c with
  | zero => rfl
  | succ rounds ih =>
      rw [RateCalculator.removeWhile]
      split
      · exact ih c.removeOldest
      · rfl

/-- The window keeps its size when the old data is removed. -/
@[simp] theorem windowSize_removeOldData (c : RateCalculator) (now : UInt64) :
    (c.removeOldData now).windowSize = c.windowSize := by
  unfold removeOldData
  dsimp only
  split
  · rfl
  · split
    · rfl
    · split
      · rfl
      · exact windowSize_removeWhile c _ _

/-- The window keeps its size in every call. -/
@[simp] theorem windowSize_step (c : RateCalculator) (call : RateCall) :
    (c.step call).windowSize = c.windowSize := by
  cases call with
  | update size now =>
      change (c.update size now).windowSize = c.windowSize
      unfold RateCalculator.update
      split
      · rfl
      · exact windowSize_removeOldData c now
  | getRate now => exact windowSize_removeOldData c now

/-- Data without bytes changes nothing. -/
theorem setData_zero (c : RateCalculator) : c.setData 0 = c := by
  have hbuffer : c.buffer.modify c.lastIndex.toNat (· + 0) = c.buffer := by
    simp only [add_zero]
    exact List.modify_id _ _
  rw [setData, hbuffer, add_zero]

/-- A call removes old data, and counts its size. -/
theorem step_eq {call : RateCall} (h : c.oldestTime.toNat ≤ call.now.toNat) :
    c.step call = (c.removeOldData call.now).setData call.size := by
  cases call with
  | update size now =>
      have hnot : ¬ now < c.oldestTime := UInt64.not_lt.2 (UInt64.le_iff_toNat_le.2 h)
      exact if_neg hnot
  | getRate now => exact (setData_zero _).symm

/-- Old data are removed one after the other, or by a reset. -/
theorem removeOldData_cases (c : RateCalculator) (now : UInt64)
    (h : c.oldestTime.toNat + c.windowSize.toNat ≤ now.toNat) :
    (now - c.windowSize).toNat = now.toNat - c.windowSize.toNat ∧
      (c.oldestTime.toNat + c.windowSize.toNat = now.toNat ∧ c.removeOldData now = c ∨
        c.oldestTime.toNat + 2 * c.windowSize.toNat < now.toNat ∧
          c.removeOldData now = c.reset (now - c.windowSize) ∨
        now.toNat ≤ c.oldestTime.toNat + 2 * c.windowSize.toNat ∧
          c.removeOldData now =
            { removeWhile (now - c.windowSize) (now - c.windowSize - c.oldestTime).toNat c with
              oldestTime := now - c.windowSize }) := by
  have hmax := now.toNat_lt
  have hnew : (now - c.windowSize).toNat = now.toNat - c.windowSize.toNat :=
    UInt64.toNat_sub_of_le _ _ (UInt64.le_iff_toNat_le.2 (by omega))
  have hend : (c.oldestTime + c.windowSize).toNat = c.oldestTime.toNat + c.windowSize.toNat := by
    rw [UInt64.toNat_add]
    exact Nat.mod_eq_of_lt (by omega)
  have hge : ¬ now - c.windowSize < c.oldestTime :=
    UInt64.not_lt.2 (UInt64.le_iff_toNat_le.2 (by omega))
  refine ⟨hnew, ?_⟩
  unfold removeOldData
  dsimp only
  rw [if_neg hge]
  by_cases hsame : now - c.windowSize = c.oldestTime
  · rw [if_pos hsame]
    rw [hsame] at hnew
    exact .inl ⟨by omega, rfl⟩
  · rw [if_neg hsame]
    by_cases hgt : now - c.windowSize > c.oldestTime + c.windowSize
    · rw [if_pos hgt]
      have hgt := UInt64.lt_iff_toNat_lt.1 hgt
      exact .inr (.inl ⟨by omega, rfl⟩)
    · rw [if_neg hgt]
      have hle := UInt64.le_iff_toNat_le.1 (UInt64.not_lt.1 hgt)
      exact .inr (.inr ⟨by omega, rfl⟩)

/-- Within a window the old data are removed. -/
theorem Shows.removeOldData (h : Shows c history) (now : UInt64)
    (h1 : c.oldestTime.toNat + c.windowSize.toNat ≤ now.toNat)
    (h2 : now.toNat ≤ c.oldestTime.toNat + 2 * c.windowSize.toNat) :
    Shows (c.removeOldData now) history ∧
      (c.removeOldData now).oldestTime.toNat + c.windowSize.toNat = now.toNat := by
  obtain ⟨hnew, ⟨htime, heq⟩ | ⟨hgt, -⟩ | ⟨-, heq⟩⟩ := removeOldData_cases c now h1
  · rw [heq]
    exact ⟨h, htime⟩
  · exact absurd h2 (Nat.not_le.2 hgt)
  · have hle : c.oldestTime ≤ now - c.windowSize := UInt64.le_iff_toNat_le.2 (by omega)
    have hrounds : c.oldestTime.toNat + (now - c.windowSize - c.oldestTime).toNat =
        (now - c.windowSize).toNat := by
      rw [UInt64.toNat_sub_of_le _ _ hle]
      omega
    obtain ⟨hshows, htime, -⟩ := h.removeWhile hrounds
    rw [heq]
    generalize c.removeWhile _ _ = removed at hshows htime ⊢
    rw [← htime]
    refine ⟨hshows, ?_⟩
    change removed.oldestTime.toNat + _ = _
    rw [htime]
    omega

/-! ## Runs -/

/-- The window ends at the last call. -/
structure Aligned (c : RateCalculator) (history : List (ℕ × UInt64)) (last : ℕ) : Prop where
  shows : Shows c history
  time : c.oldestTime.toNat + c.windowSize.toNat = last

/-- After a pause the buffer shows what the last call has counted one `windowSize` too early. Nothing else
was counted since then. -/
structure Drifted (c : RateCalculator) (history : List (ℕ × UInt64)) (last : ℕ) (counted : UInt64) :
    Prop where
  shows : Shows c [(c.oldestTime.toNat + c.windowSize.toNat, counted)]
  time : c.oldestTime.toNat + 2 * c.windowSize.toNat = last
  past : ∀ event ∈ history, event.1 ≤ last
  sizes : ∀ t, last ≤ t + c.windowSize.toNat → t < last → sizeIn history t last = counted

/-- What is aligned is counted right. -/
theorem Aligned.counted {last : UInt64} (h : Aligned c history last.toNat) : Counted c history last := by
  refine ⟨h.shows.total, ?_⟩
  rw [h.shows.totalCount, h.time, ← h.time, Nat.add_sub_cancel]

/-- What has drifted counts what was counted last. -/
theorem Drifted.totalCount {last : ℕ} {counted : UInt64} (h : Drifted c history last counted) :
    c.totalCount = counted := by
  have hpos := h.shows.pos
  rw [h.shows.totalCount, sizeIn_cons, if_pos ⟨by omega, le_refl _⟩]
  exact add_zero counted

/-- What has drifted is right for the time of the last update. -/
theorem Drifted.counted {last : UInt64} {counted : UInt64} (h : Drifted c history last.toNat counted) :
    Counted c history last := by
  have hpos := h.shows.pos
  have htime := h.time
  refine ⟨h.shows.total, ?_⟩
  rw [h.totalCount, h.sizes _ (by omega) (by omega)]

/-- Data of the last millisecond is added. -/
theorem Aligned.setData {last : ℕ} (h : Aligned c history last) (size : UInt64) :
    Aligned (c.setData size) (history ++ [(last, size)]) last := by
  refine ⟨?_, h.time⟩
  rw [← h.time]
  exact h.shows.setData size

/-- A call within a window. -/
theorem Aligned.step {last : ℕ} (h : Aligned c history last) {call : RateCall}
    (h1 : last ≤ call.now.toNat) (h2 : call.now.toNat ≤ last + c.windowSize.toNat) :
    Aligned (c.step call) (history ++ [call.event]) call.now.toNat := by
  have htime := h.time
  obtain ⟨hshows, hnow⟩ := h.shows.removeOldData call.now (by omega) (by omega)
  have hremoved : Aligned (c.removeOldData call.now) history call.now.toNat :=
    ⟨hshows, by rw [windowSize_removeOldData, hnow]⟩
  rw [step_eq (by omega)]
  exact hremoved.setData call.size

/-- A reset counts the call one `windowSize` too early. -/
theorem drifted_step {last : ℕ} (hpos : 0 < c.windowSize.toNat) (hle : c.windowSize.toNat ≤ 2 ^ 31)
    {call : RateCall} (htime : c.oldestTime.toNat + 2 * c.windowSize.toNat < call.now.toNat)
    (hlast : last < call.now.toNat) (hpast : ∀ event ∈ history, event.1 ≤ last)
    (hnone : ∀ t, call.now.toNat ≤ t + c.windowSize.toNat → t < last → sizeIn history t last = 0) :
    Drifted (c.step call) (history ++ [call.event]) call.now.toNat call.size := by
  obtain ⟨hnew, ⟨h, -⟩ | ⟨-, hreset⟩ | ⟨h, -⟩⟩ := removeOldData_cases c call.now (by omega)
  · omega
  · have hempty : Shows (c.reset (call.now - c.windowSize)) [] :=
      shows_reset hpos hle (List.forall_mem_nil _)
    have htwice : (call.now - c.windowSize - c.windowSize).toNat =
        call.now.toNat - c.windowSize.toNat - c.windowSize.toNat := by
      rw [UInt64.toNat_sub_of_le, hnew]
      rw [UInt64.le_iff_toNat_le]
      omega
    rw [step_eq (by omega), hreset]
    refine ⟨hempty.setData call.size, ?_, fun event hmem => ?_, fun t hle ht => ?_⟩
    · change (call.now - c.windowSize - c.windowSize).toNat + 2 * c.windowSize.toNat = _
      omega
    · rcases List.mem_append.1 hmem with hmem | hmem
      · exact (hpast event hmem).trans hlast.le
      · rw [List.mem_singleton.1 hmem]
        exact le_refl _
    · rw [RateCall.event, sizeIn_append, if_pos ⟨ht, le_refl _⟩]
      rcases Nat.lt_or_ge t last with hlt | hge
      · rw [sizeIn_split last hlt.le hlast.le, hnone t hle hlt, sizeIn_eq_zero hpast, zero_add, zero_add]
      · rw [sizeIn_eq_zero fun event hmem => (hpast event hmem).trans hge, zero_add]
  · omega

/-- A call after a pause. -/
theorem Aligned.pause {last : ℕ} (h : Aligned c history last) {call : RateCall}
    (hgt : last + c.windowSize.toNat < call.now.toNat) :
    Drifted (c.step call) (history ++ [call.event]) call.now.toNat call.size := by
  have htime := h.time
  have hlast : last < call.now.toNat := by omega
  refine drifted_step h.shows.pos h.shows.le (by omega) hlast (fun event hmem => ?_) fun t _ _ => ?_
  · rw [← htime]
    exact h.shows.past event hmem
  · omega

/-- Whatever comes after a pause, what the last call has counted is gone. -/
theorem Drifted.totalCount_step {last : ℕ} {counted : UInt64} (h : Drifted c history last counted)
    {call : RateCall} (hlast : last ≤ call.now.toNat) : (c.step call).totalCount = call.size := by
  have htime := h.time
  have hpos := h.shows.pos
  rcases Nat.eq_or_lt_of_le hlast with heq | hlt
  · obtain ⟨hshows, hnow⟩ := h.shows.removeOldData call.now (by omega) (by omega)
    rw [step_eq (by omega)]
    change (c.removeOldData call.now).totalCount + call.size = _
    rw [hshows.totalCount, sizeIn_cons, if_neg (by dsimp only; omega)]
    exact (congrArg (· + call.size) (add_zero 0)).trans (zero_add _)
  · have hdrifted : Drifted (c.step call) ([] ++ [call.event]) call.now.toNat call.size :=
      drifted_step hpos h.shows.le (by omega) hlt (List.forall_mem_nil _) fun t _ _ => rfl
    exact hdrifted.totalCount

/-- It is right only if that was nothing, or is past. -/
theorem Drifted.counted_step {last : ℕ} {counted : UInt64} (h : Drifted c history last counted)
    {call : RateCall} (hlast : last ≤ call.now.toNat)
    (hcounted : Counted (c.step call) (history ++ [call.event]) call.now) :
    counted = 0 ∨ last + c.windowSize.toNat ≤ call.now.toNat := by
  by_contra hnot
  obtain ⟨hne, hlt⟩ := not_or.1 hnot
  have htime := h.time
  have hpos := h.shows.pos
  have hwindow := hcounted.window
  rw [h.totalCount_step hlast, windowSize_step, RateCall.event, sizeIn_append,
    if_pos ⟨by omega, le_refl _⟩] at hwindow
  have hzero : sizeIn history (call.now.toNat - c.windowSize.toNat) call.now.toNat = counted := by
    rw [sizeIn_split last (by omega) hlast, h.sizes _ (by omega) (by omega),
      sizeIn_eq_zero h.past, add_zero]
  rw [hzero] at hwindow
  exact hne (right_eq_add.1 hwindow)

/-- A call at the same time as the last one that came after a pause. -/
theorem Drifted.aligned {last : ℕ} (h : Drifted c history last 0) {call : RateCall}
    (hnow : call.now.toNat = last) : Aligned (c.step call) (history ++ [call.event]) call.now.toNat := by
  have htime := h.time
  have hpos := h.shows.pos
  obtain ⟨hshows, hend⟩ := h.shows.removeOldData call.now (by omega) (by omega)
  have hnothing : ∀ t, last ≤ t + c.windowSize.toNat → t ≤ last → sizeIn history t last = 0 := by
    intro t ht hle
    rcases Nat.eq_or_lt_of_le hle with rfl | hlt
    · exact sizeIn_eq_zero h.past
    · exact h.sizes t ht hlt
  have hcounts : counts history (c.removeOldData call.now).oldestTime.toNat c.windowSize.toNat =
      List.replicate c.windowSize.toNat 0 := by
    refine List.eq_replicate_iff.2 ⟨length_counts, fun count hcount => ?_⟩
    obtain ⟨t, ht, rfl⟩ := List.mem_map.1 hcount
    have hrange := List.mem_range'_1.1 ht
    have hsize := hnothing t (by omega) (by omega)
    rw [sizeIn_split (t + 1) (by omega) (by omega), hnothing (t + 1) (by omega) (by omega),
      add_zero] at hsize
    exact hsize
  have hremoved : Aligned (c.removeOldData call.now) history call.now.toNat := by
    refine ⟨⟨hshows.pos, hshows.le, hshows.index, ?_, fun event hmem => ?_, hshows.total⟩, ?_⟩
    · rw [hshows.window, windowSize_removeOldData, hcounts]
      refine counts_eq_replicate fun event hmem => ?_
      rw [List.mem_singleton.1 hmem]
      dsimp only
      omega
    · rw [windowSize_removeOldData, hend, hnow]
      exact h.past event hmem
    · rw [windowSize_removeOldData, hend]
  rw [step_eq (by omega)]
  exact hremoved.setData call.size

/-- What holds after the last call. -/
def After (c : RateCalculator) (history : List (ℕ × UInt64)) (last : ℕ) (pause : Bool)
    (counted : UInt64) : Prop :=
  if pause then Drifted c history last counted else Aligned c history last

/-- After a call the count is right. -/
theorem After.counted {last : UInt64} {pause : Bool} {counted : UInt64}
    (h : After c history last.toNat pause counted) : Counted c history last := by
  cases pause with
  | false =>
      have h : Aligned c history last.toNat := h
      exact h.counted
  | true =>
      have h : Drifted c history last.toNat counted := h
      exact h.counted

/-- **A call**, if what was counted after a pause is nothing or past. -/
theorem After.step {last : ℕ} {pause : Bool} {counted : UInt64} {call : RateCall}
    (h : After c history last pause counted) (hlast : last ≤ call.now.toNat)
    (hsteady : pause = true → counted = 0 ∨ last + c.windowSize.toNat ≤ call.now.toNat) :
    After (c.step call) (history ++ [call.event]) call.now.toNat
      (if pause then last < call.now.toNat else last + c.windowSize.toNat < call.now.toNat)
      call.size := by
  cases pause with
  | false =>
      have h : Aligned c history last := h
      rcases Nat.lt_or_ge (last + c.windowSize.toNat) call.now.toNat with hgt | hle
      · rw [if_neg Bool.false_ne_true, decide_eq_true hgt]
        exact h.pause hgt
      · rw [if_neg Bool.false_ne_true, decide_eq_false (Nat.not_lt.2 hle)]
        exact h.step hlast hle
  | true =>
      have h : Drifted c history last counted := h
      have hpos := h.shows.pos
      have htime := h.time
      rcases Nat.eq_or_lt_of_le hlast with heq | hlt
      · rw [if_pos rfl, decide_eq_false (Nat.not_lt.2 heq.ge)]
        rcases hsteady rfl with rfl | hpast
        · exact h.aligned heq.symm
        · omega
      · rw [if_pos rfl, decide_eq_true hlt]
        refine drifted_step hpos h.shows.le (by omega) hlt h.past fun t ht hlt => ?_
        rcases hsteady rfl with rfl | hpast
        · exact h.sizes t (by omega) hlt
        · omega

/-- **The run.** -/
theorem After.countedAfterEach {last : ℕ} {pause : Bool} {counted : UInt64} {calls : List RateCall}
    (h : After c history last pause counted) (horder : InOrder last calls) :
    CountedAfterEach c history calls ↔ Steady c.windowSize.toNat last pause counted calls := by
  induction calls generalizing c history last pause counted with
  | nil => exact Iff.rfl
  | cons call calls ih =>
      obtain ⟨hlast, horder⟩ := horder
      rw [CountedAfterEach, Steady]
      constructor
      · rintro ⟨hcounted, hcalls⟩
        have hsteady : pause = true → counted = 0 ∨ last + c.windowSize.toNat ≤ call.now.toNat := by
          rintro rfl
          have h : Drifted c history last counted := h
          exact h.counted_step hlast hcounted
        refine ⟨hsteady, ?_⟩
        rw [ih (h.step hlast hsteady) horder, windowSize_step] at hcalls
        exact hcalls
      · rintro ⟨hsteady, hcalls⟩
        have hnext := h.step hlast hsteady
        refine ⟨hnext.counted, ?_⟩
        rw [ih hnext horder, windowSize_step]
        exact hcalls

/-- A new calculator has counted nothing. -/
theorem after_create {windowSize now : UInt64} (hpos : 0 < windowSize.toNat)
    (hle : windowSize.toNat ≤ 2 ^ 31) (hnow : windowSize.toNat ≤ now.toNat) :
    After (create windowSize now) [] now.toNat false 0 := by
  have hshows : Shows (create windowSize now) [] := shows_reset hpos hle (List.forall_mem_nil _)
  refine ⟨hshows, ?_⟩
  change (now - windowSize).toNat + windowSize.toNat = now.toNat
  rw [UInt64.toNat_sub_of_le _ _ (UInt64.le_iff_toNat_le.2 hnow), Nat.sub_add_cancel hnow]

end

/-- **The total is right after each call just if no call counts something after a pause, unless the next one
comes when that is past.** -/
theorem countedAfterEach_iff (windowSize now : UInt64) (calls : List RateCall)
    (hpos : 0 < windowSize.toNat) (hle : windowSize.toNat ≤ 2 ^ 31) (hnow : windowSize.toNat ≤ now.toNat)
    (horder : InOrder now.toNat calls) :
    CountedAfterEach (create windowSize now) [] calls ↔
      Steady windowSize.toNat now.toNat false 0 calls :=
  (after_create hpos hle hnow).countedAfterEach horder

/-- Two updates within a second. -/
theorem countedAfterEach_two :
    CountedAfterEach (create 1000 5000) [] [.update 100 5000, .update 20 5900] ↔
      Steady 1000 5000 false 0 [.update 100 5000, .update 20 5900] :=
  countedAfterEach_iff 1000 5000 _ (by decide) (by decide) (by decide)
    ⟨by decide, by decide, trivial⟩

/-- An update five seconds after the last call, and a `GetRate` at the same time: the bytes are gone. -/
theorem update_after_a_pause :
    (((create 1000 5000).step (.update 100 10000)).step (.getRate 10000)).totalCount = 0 ∧
      sizeIn ([.update 100 10000, .getRate 10000].map RateCall.event) 9000 10000 = 100 ∧
      ¬ CountedAfterEach (create 1000 5000) [] [.update 100 10000, .getRate 10000] := by
  have hcreate : After (create 1000 5000) [] 5000 false 0 :=
    @after_create 1000 5000 (by decide) (by decide) (by decide)
  have hupdate : Drifted ((create 1000 5000).step (.update 100 10000)) _ 10000 100 :=
    Aligned.pause hcreate (by decide)
  have htotal := @Drifted.totalCount_step _ _ _ _ hupdate (.getRate 10000) (le_refl _)
  refine ⟨htotal, rfl, fun hcounted => ?_⟩
  have hwindow := hcounted.2.1.window
  rw [htotal, windowSize_step, windowSize_step] at hwindow
  exact absurd hwindow (by decide)

end RateCalculator

end KoreWebsocket.Rtp
