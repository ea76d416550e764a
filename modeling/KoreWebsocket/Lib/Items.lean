import KoreWebsocket.Lib.Bytes
import KoreWebsocket.Lib.Checked

/-!
# Reading items off a buffer

`readItems` is the loop of a parser that reads one item after the other:

    while (n-- != 0 && len - offset > 0) {
      item = Item::Parse(data + offset, len - offset);
      if (item == nullptr) break;
      offset += item->GetSize();
    }

`out` is its result when `n` is used up: the items so far for a loop with a counter (`.ok []`), and
`Fault.loops` for a loop without one, where `n` is fuel. `Walk` is the way through the buffer, from
an offset over some items to another offset, and `readItems_eq_ok` says what the loop returns: the
items of the walk that goes on until the items stop. When every item stays the same in a longer
buffer (`Local`), so does the walk, and the loop reads the same in the longer buffer exactly if the
items stop at the same place (`readItems_append`).
-/

namespace Bytes

variable {α : Type}

/-- A parser of one item, which returns the item and its size. -/
abbrev Item (α : Type) := List UInt8 → Except Fault (Option (α × Nat))

/-- The loop. -/
def readItems (out : Except Fault (List α)) (item : Item α) (d : List UInt8) :
    Nat → Nat → Except Fault (List α)
  | 0, _ => out
  | n + 1, offset =>
      if d.length < offset then .error .wraps
      else if d.length = offset then .ok []
      else do
        match ← item (d.drop offset) with
        | none => return []
        | some (x, size) =>
            let xs ← readItems out item d n (offset + size)
            return x :: xs

/-- At most `n` items. -/
def readUpTo (item : Item α) (d : List UInt8) (n offset : Nat) : Except Fault (List α) :=
  readItems (.ok []) item d n offset

/-- All items. A buffer has no more items than bytes. -/
def readAll (item : Item α) (d : List UInt8) (offset : Nat) : Except Fault (List α) :=
  readItems (.error .loops) item d (d.length + 1) offset

/-- The items from one offset to another. -/
inductive Walk (item : Item α) (d : List UInt8) : Nat → List α → Nat → Prop
  | nil (o : Nat) : Walk item d o [] o
  | cons {o e size : Nat} {x : α} {xs : List α} (hlt : o < d.length)
      (hx : item (d.drop o) = .ok (some (x, size))) (hw : Walk item d (o + size) xs e) :
      Walk item d o (x :: xs) e

/-- No item at the offset: the buffer ends, or what is there is no item. -/
def Stops (item : Item α) (d : List UInt8) (e : Nat) : Prop :=
  e = d.length ∨ e < d.length ∧ item (d.drop e) = .ok none

/-- An item that fits the buffer is the same in a longer one. -/
def Local (item : Item α) : Prop :=
  ∀ b r x size, item b = .ok (some (x, size)) → size ≤ b.length →
    item (b ++ r) = .ok (some (x, size))

section
variable {out : Except Fault (List α)} {item : Item α} {d b r : List UInt8} {n o e e' : Nat}
  {xs : List α}

/-- An item is read, and the others behind it. -/
theorem readItems_succ (hlt : o < d.length) {x : α} {size : Nat}
    (hx : item (d.drop o) = .ok (some (x, size))) :
    readItems out item d (n + 1) o = (readItems out item d n (o + size)).map (x :: ·) := by
  rw [readItems, if_neg (by omega), if_neg (by omega), hx, Checked.ok_bind]
  dsimp only
  cases readItems out item d n (o + size) <;> rfl

/-- Nothing is read where the items stop. -/
theorem readItems_stop (hs : Stops item d o) : readItems out item d (n + 1) o = .ok [] := by
  rw [readItems]
  rcases hs with hs | ⟨hlt, hs⟩
  · rw [if_neg (by omega), if_pos hs.symm]
  · rw [if_neg (by omega), if_neg (by omega), hs]; rfl

/-- The loop follows a walk. -/
theorem Walk.readItems_eq (hw : Walk item d o xs e) (out : Except Fault (List α)) (n : Nat) :
    readItems out item d (n + xs.length) o = (readItems out item d n e).map (xs ++ ·) := by
  induction hw with
  | nil o => cases readItems out item d n o <;> simp [Except.map]
  | @cons o e size x xs hlt hx _ ih =>
      rw [List.length_cons, ← Nat.add_assoc, readItems_succ hlt hx, ih]
      cases readItems out item d n e <;> rfl

/-- **What the loop returns.** The items of a walk that ends because `n` is used up, or because the
items stop. -/
theorem readItems_eq_ok : readItems out item d n o = .ok xs ↔
    ∃ ys e, Walk item d o ys e ∧
      (ys.length = n ∧ out.map (ys ++ ·) = .ok xs ∨ ys.length < n ∧ Stops item d e ∧ ys = xs) := by
  constructor
  · intro h
    induction n generalizing o xs with
    | zero =>
        have ho : out = .ok xs := h
        exact ⟨[], o, .nil o, .inl ⟨rfl, by rw [ho]; rfl⟩⟩
    | succ n ih =>
        rw [readItems] at h
        split at h
        · cases h
        split at h
        · next hend => cases h; exact ⟨[], o, .nil o, .inr ⟨Nat.succ_pos n, .inl hend.symm, rfl⟩⟩
        have hlt : o < d.length := by omega
        obtain ⟨a, ha, h⟩ := Checked.bind_eq_ok.1 h
        match a with
        | none => cases h; exact ⟨[], o, .nil o, .inr ⟨Nat.succ_pos n, .inr ⟨hlt, ha⟩, rfl⟩⟩
        | some (x, size) =>
            obtain ⟨zs, hz, h⟩ := Checked.bind_eq_ok.1 h
            cases h
            obtain ⟨ys, e, hw, ⟨hl, ho⟩ | ⟨hl, hs, rfl⟩⟩ := ih hz
            · refine ⟨x :: ys, e, .cons hlt ha hw, .inl ⟨congrArg Nat.succ hl, ?_⟩⟩
              cases out with
              | error f => cases ho
              | ok zs' => cases ho; rfl
            · exact ⟨x :: ys, e, .cons hlt ha hw, .inr ⟨Nat.succ_lt_succ hl, hs, rfl⟩⟩
  · rintro ⟨ys, e, hw, ⟨rfl, ho⟩ | ⟨hl, hs, rfl⟩⟩
    · have := hw.readItems_eq out 0
      rwa [Nat.zero_add, readItems, ho] at this
    · obtain ⟨m, rfl⟩ := Nat.exists_eq_add_of_lt hl
      have := hw.readItems_eq out (m + 1)
      rw [readItems_stop hs] at this
      rw [show ys.length + m + 1 = m + 1 + ys.length by omega, this]
      simp [Except.map]

/-- What is read is a walk of so many items, or one that stops before. -/
theorem readUpTo_eq_ok : readUpTo item d n o = .ok xs ↔
    ∃ e, Walk item d o xs e ∧ (xs.length = n ∨ xs.length < n ∧ Stops item d e) := by
  rw [readUpTo, readItems_eq_ok]
  constructor
  · rintro ⟨ys, e, hw, ⟨hl, ho⟩ | ⟨hl, hs, rfl⟩⟩
    · have : ys = xs := by simpa [Except.map] using ho
      subst this
      exact ⟨e, hw, .inl hl⟩
    · exact ⟨e, hw, .inr ⟨hl, hs⟩⟩
  · rintro ⟨e, hw, hl | ⟨hl, hs⟩⟩
    · exact ⟨xs, e, hw, .inl ⟨hl, by simp [Except.map]⟩⟩
    · exact ⟨xs, e, hw, .inr ⟨hl, hs, rfl⟩⟩

/-- What is read is a walk that stops. -/
theorem readAll_eq_ok : readAll item d o = .ok xs ↔
    ∃ e, Walk item d o xs e ∧ xs.length ≤ d.length ∧ Stops item d e := by
  rw [readAll, readItems_eq_ok]
  constructor
  · rintro ⟨ys, e, hw, ⟨-, ho⟩ | ⟨hl, hs, rfl⟩⟩
    · cases ho
    · exact ⟨e, hw, Nat.lt_succ_iff.1 hl, hs⟩
  · rintro ⟨e, hw, hl, hs⟩
    exact ⟨xs, e, hw, .inr ⟨Nat.lt_succ_iff.2 hl, hs, rfl⟩⟩

/-- Nothing is read just where the items stop. -/
theorem readUpTo_succ_eq_nil : readUpTo item d (n + 1) o = .ok [] ↔ Stops item d o := by
  refine ⟨fun h => ?_, readItems_stop⟩
  obtain ⟨e, hw, h⟩ := readUpTo_eq_ok.1 h
  cases hw
  exact (h.resolve_left (by simp)).2

/-- The first item, and those behind it. -/
theorem readUpTo_succ_eq_cons {x : α} : readUpTo item d (n + 1) o = .ok (x :: xs) ↔
    ∃ size, o < d.length ∧ item (d.drop o) = .ok (some (x, size)) ∧
      readUpTo item d n (o + size) = .ok xs := by
  constructor
  · intro h
    obtain ⟨e, hw, h⟩ := readUpTo_eq_ok.1 h
    cases hw with
    | @cons _ _ size _ _ hlt hx hw =>
        refine ⟨size, hlt, hx, readUpTo_eq_ok.2 ⟨e, hw, ?_⟩⟩
        exact h.imp Nat.succ.inj fun h => ⟨Nat.lt_of_succ_lt_succ h.1, h.2⟩
  · rintro ⟨size, hlt, hx, h⟩
    rw [readUpTo] at h ⊢
    rw [readItems_succ hlt hx, h]; rfl

/-! ## Walks -/

/-- A walk goes forward. -/
theorem Walk.le (hw : Walk item d o xs e) : o ≤ e := by
  induction hw with
  | nil => exact Nat.le_refl _
  | cons _ _ _ ih => omega

/-- Over items of a positive size a walk has no more items than bytes. -/
theorem Walk.length_le (hpos : ∀ u x size, item u = .ok (some (x, size)) → 0 < size)
    (hw : Walk item d o xs e) : o + xs.length ≤ e := by
  induction hw with
  | nil => simp
  | cons _ hx _ ih =>
      have := hpos _ _ _ hx
      rw [List.length_cons]
      omega

/-- A walk goes on over the item at its end. -/
theorem Walk.snoc {x : α} {size : Nat} (hw : Walk item d o xs e) (hlt : e < d.length)
    (hx : item (d.drop e) = .ok (some (x, size))) : Walk item d o (xs ++ [x]) (e + size) := by
  induction hw with
  | nil => exact .cons hlt hx (.nil _)
  | cons hlt' hx' _ ih => exact .cons hlt' hx' (ih hlt hx)

/-- A walk over the same items ends at the same place. -/
theorem Walk.end_unique (hw : Walk item d o xs e) (hw' : Walk item d o xs e') : e = e' := by
  induction hw with
  | nil => cases hw'; rfl
  | cons hlt hx _ ih =>
      cases hw' with
      | cons _ hx' hw' =>
          cases hx.symm.trans hx'
          exact ih hw'

/-- The offset does not hold an item: what is there stops the loop, or is a fault. -/
def NoItem (item : Item α) (d : List UInt8) (e : Nat) : Prop :=
  e < d.length → ∀ x size, item (d.drop e) ≠ .ok (some (x, size))

/-- There is a walk to a place without an item, or over `n` items. -/
theorem exists_walk (item : Item α) (d : List UInt8) (n o : Nat) :
    ∃ xs e, Walk item d o xs e ∧ (xs.length = n ∨ xs.length < n ∧ NoItem item d e) := by
  induction n generalizing o with
  | zero => exact ⟨[], o, .nil o, .inl rfl⟩
  | succ n ih =>
      by_cases h : ∃ x size, o < d.length ∧ item (d.drop o) = .ok (some (x, size))
      · obtain ⟨x, size, hlt, hx⟩ := h
        obtain ⟨xs, e, hw, h⟩ := ih (o + size)
        refine ⟨x :: xs, e, .cons hlt hx hw, h.imp (congrArg Nat.succ) fun h => ?_⟩
        exact ⟨Nat.succ_lt_succ h.1, h.2⟩
      · refine ⟨[], o, .nil o, .inr ⟨Nat.succ_pos n, fun hlt x size hx => h ⟨x, size, hlt, hx⟩⟩⟩

/-- There is no item where they stop. -/
theorem Stops.noItem (h : Stops item d e) : NoItem item d e := by
  rcases h with rfl | ⟨-, h⟩
  · exact fun hlt => absurd hlt (Nat.lt_irrefl _)
  · intro _ x size hx
    rw [h] at hx; cases hx

/-- Two walks from one offset to places without an item are the same. -/
theorem Walk.unique {ys : List α} (hw : Walk item d o xs e) (he : NoItem item d e)
    (hw' : Walk item d o ys e') (he' : NoItem item d e') : xs = ys ∧ e = e' := by
  induction hw generalizing ys with
  | nil =>
      cases hw' with
      | nil => exact ⟨rfl, rfl⟩
      | cons hlt hx => exact absurd hx (he hlt _ _)
  | cons hlt hx _ ih =>
      cases hw' with
      | nil => exact absurd hx (he' hlt _ _)
      | cons _ hx' hw' =>
          cases hx.symm.trans hx'
          obtain ⟨rfl, rfl⟩ := ih he hw'
          exact ⟨rfl, rfl⟩

/-- A walk to a place without an item decides the loop: it returns the items if they stop there. -/
theorem Walk.readAll_iff (hw : Walk item d o xs e) (ys : List α) (he : NoItem item d e)
    (hlen : xs.length ≤ d.length) :
    readAll item d o = .ok ys ↔ ys = xs ∧ Stops item d e := by
  rw [readAll_eq_ok]
  constructor
  · rintro ⟨e', hw', -, hs⟩
    obtain ⟨rfl, rfl⟩ := hw.unique he hw' hs.noItem
    exact ⟨rfl, hs⟩
  · rintro ⟨rfl, hs⟩
    exact ⟨e, hw, hlen, hs⟩

/-- Over items that fit the buffer a walk stays in it. -/
theorem Walk.le_length (hfit : ∀ u x size, item u = .ok (some (x, size)) → size ≤ u.length)
    (ho : o ≤ d.length) (hw : Walk item d o xs e) : e ≤ d.length := by
  induction hw with
  | nil => exact ho
  | cons hlt hx _ ih =>
      refine ih ?_
      have := hfit _ _ _ hx
      rw [List.length_drop] at this
      omega

/-- Where the buffer ends or an item parser without faults finds no item, the items stop. -/
theorem NoItem.stops (h : NoItem item d e) (he : e ≤ d.length)
    (hok : ∀ u, u ≠ [] → ∃ a, item u = .ok a) : Stops item d e := by
  by_cases hlt : e < d.length
  · refine .inr ⟨hlt, ?_⟩
    obtain ⟨a, ha⟩ := hok (d.drop e) fun hnil => by
      have := congrArg List.length hnil
      rw [List.length_drop, List.length_nil] at this
      omega
    match a with
    | none => exact ha
    | some (x, size) => exact absurd ha (h hlt x size)
  · exact .inl (Nat.le_antisymm he (Nat.le_of_not_lt hlt))

/-- A loop over items that fit and have no faults has none. -/
theorem readUpTo_total (hfit : ∀ u x size, item u = .ok (some (x, size)) → size ≤ u.length)
    (hok : ∀ u, u ≠ [] → ∃ a, item u = .ok a) (ho : o ≤ d.length) :
    ∃ xs, readUpTo item d n o = .ok xs := by
  obtain ⟨xs, e, hw, h⟩ := exists_walk item d n o
  refine ⟨xs, readUpTo_eq_ok.2 ⟨e, hw, h.imp_right fun h => ⟨h.1, ?_⟩⟩⟩
  exact h.2.stops (hw.le_length hfit ho) hok

/-- Over items of a positive size there is a walk to a place without an item. -/
theorem exists_maximal_walk (hpos : ∀ u x size, item u = .ok (some (x, size)) → 0 < size)
    (d : List UInt8) (o : Nat) :
    ∃ xs e, Walk item d o xs e ∧ NoItem item d e := by
  obtain ⟨xs, e, hw, h⟩ := exists_walk item d (d.length + 1) o
  refine ⟨xs, e, hw, ?_⟩
  rcases h with h | h
  · have := hw.length_le hpos
    exact fun hlt => by omega
  · exact h.2

/-- If the items are not empty, fit and can be read, all of them are read. -/
theorem readAll_total (hpos : ∀ u x size, item u = .ok (some (x, size)) → 0 < size)
    (hfit : ∀ u x size, item u = .ok (some (x, size)) → size ≤ u.length)
    (hok : ∀ u, u ≠ [] → ∃ a, item u = .ok a) (ho : o ≤ d.length) :
    ∃ xs, readAll item d o = .ok xs := by
  obtain ⟨xs, e, hw, he⟩ := exists_maximal_walk hpos d o
  have hle := hw.le_length hfit ho
  have hlen := hw.length_le hpos
  exact ⟨xs, (hw.readAll_iff _ he (by omega)).2 ⟨rfl, he.stops hle hok⟩⟩

/-- Over local items a walk inside a buffer stays the same in a longer one. -/
theorem Walk.append (hl : Local item) (hw : Walk item b o xs e) (he : e ≤ b.length)
    (r : List UInt8) : Walk item (b ++ r) o xs e := by
  induction hw with
  | nil => exact .nil _
  | @cons o e size x xs hlt hx hw ih =>
      have hle := hw.le
      refine .cons (by rw [List.length_append]; omega) ?_ (ih he)
      rw [List.drop_append_of_le_length (Nat.le_of_lt hlt)]
      refine hl _ _ _ _ hx ?_
      rw [List.length_drop]; omega

/-- The items stop within the buffer. -/
theorem Stops.le (h : Stops item d e) : e ≤ d.length := by
  rcases h with h | h <;> omega

/-- **The longer buffer.** A loop with a counter that reads `xs` of a buffer reads the same of a
longer one exactly if the counter is used up or the items stop at the same place. -/
theorem readUpTo_append (hl : Local item) (hw : Walk item b o xs e) (he : e ≤ b.length) :
    readUpTo item (b ++ r) n o = .ok xs ↔
      xs.length = n ∨ xs.length < n ∧ Stops item (b ++ r) e := by
  rw [readUpTo_eq_ok]
  constructor
  · rintro ⟨e', hw', h⟩
    rw [(hw.append hl he r).end_unique hw']; exact h
  · exact fun h => ⟨e, hw.append hl he r, h⟩

/-- The same items are read when more follows, just when they stop at the same place. -/
theorem readAll_append (hl : Local item) (hw : Walk item b o xs e) (he : e ≤ b.length)
    (hlen : xs.length ≤ b.length) : readAll item (b ++ r) o = .ok xs ↔ Stops item (b ++ r) e := by
  rw [readAll_eq_ok]
  constructor
  · rintro ⟨e', hw', -, h⟩
    rw [(hw.append hl he r).end_unique hw']; exact h
  · refine fun h => ⟨e, hw.append hl he r, ?_, h⟩
    rw [List.length_append]; omega

end

end Bytes
