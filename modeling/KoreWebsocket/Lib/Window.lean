import Mathlib

/-!
# Sliding windows

What was counted over the last `n` instants, kept in a circular list with an entry for each instant. A
history is a list of instants and amounts, and `sizeIn` is what it counts after one instant and not after
another. `counts` are the entries that the window should have, oldest first: `counts_advance` says how they
change when an instant goes by, and `counts_append` when something is counted at the last one. In the
circular list an entry is replaced by `modify` and the window moves by `rotate`.
-/

namespace Window

universe u
variable {α : Type u}

/-! ## Circular lists -/

/-- An entry of a circular list is the entry at its distance from the start. -/
theorem rotate_modify (l : List α) (f : α → α) (i : ℕ) {k : ℕ} (hk : k < l.length) :
    (l.modify ((i + k) % l.length) f).rotate i = (l.rotate i).modify k f := by
  have hlength : (l.modify ((i + k) % l.length) f).length = l.length := List.length_modify ..
  refine List.ext_getElem ?_ fun j hj _ => ?_
  · rw [List.length_rotate, hlength, List.length_modify, List.length_rotate]
  · rw [List.length_rotate, hlength] at hj
    have hsame : (i + k) % l.length = (j + i) % l.length ↔ k = j := by
      rw [Nat.add_comm j i]
      constructor
      · intro h
        have hmod := Nat.ModEq.add_left_cancel' i h
        rwa [Nat.ModEq, Nat.mod_eq_of_lt hk, Nat.mod_eq_of_lt hj] at hmod
      · rintro rfl
        rfl
    rw [List.getElem_rotate, List.getElem_modify, List.getElem_modify, List.getElem_rotate]
    simp only [hlength, hsame]

/-- The oldest entry is replaced, and the list starts with the next. -/
theorem rotate_next {l : List α} {i : ℕ} {head : α} {tail : List α} (h : l.rotate i = head :: tail)
    (hi : i < l.length) (a : α) : (l.set i a).rotate (i + 1) = tail ++ [a] := by
  have hset := rotate_modify l (fun _ => a) i (Nat.lt_of_le_of_lt (Nat.zero_le i) hi)
  rw [Nat.add_zero, Nat.mod_eq_of_lt hi, h, ← List.set_eq_modify] at hset
  rw [← List.rotate_rotate, hset, List.modify_zero_cons, List.rotate_cons_succ, List.rotate_zero]

variable [AddCommMonoid α]

/-- One number of a list grows. -/
theorem sum_modify_add {l : List α} {k : ℕ} (hk : k < l.length) (a : α) :
    (l.modify k (· + a)).sum = l.sum + a := by
  induction l generalizing k with
  | nil => exact absurd hk (Nat.not_lt_zero k)
  | cons b l ih =>
      cases k with
      | zero => rw [List.modify_zero_cons, List.sum_cons, List.sum_cons, add_right_comm]
      | succ k =>
          rw [List.modify_succ_cons, List.sum_cons, List.sum_cons, ih (Nat.lt_of_succ_lt_succ hk),
            add_assoc]

/-! ## Histories -/

/-- What was counted after one instant, and not after another. -/
def sizeIn (history : List (ℕ × α)) (after last : ℕ) : α :=
  ((history.filter fun event => after < event.1 ∧ event.1 ≤ last).map Prod.snd).sum

/-- The entries of the `n` instants after another. -/
def counts (history : List (ℕ × α)) (after n : ℕ) : List α :=
  (List.range' after n).map fun t => sizeIn history t (t + 1)

section
variable {history : List (ℕ × α)} {after last n : ℕ}

theorem sizeIn_cons (event : ℕ × α) (history : List (ℕ × α)) (after last : ℕ) :
    sizeIn (event :: history) after last =
      (if after < event.1 ∧ event.1 ≤ last then event.2 else 0) + sizeIn history after last := by
  rw [sizeIn, List.filter_cons, sizeIn]
  by_cases h : after < event.1 ∧ event.1 ≤ last
  · rw [if_pos (decide_eq_true h), if_pos h, List.map_cons, List.sum_cons]
  · rw [if_neg (fun hcounted => h (of_decide_eq_true hcounted)), if_neg h, zero_add]

theorem sizeIn_append (history : List (ℕ × α)) (t : ℕ) (a : α) (after last : ℕ) :
    sizeIn (history ++ [(t, a)]) after last =
      sizeIn history after last + if after < t ∧ t ≤ last then a else 0 := by
  induction history with
  | nil => rw [List.nil_append, sizeIn_cons, add_comm]
  | cons event history ih => rw [List.cons_append, sizeIn_cons, sizeIn_cons, ih, add_assoc]

/-- Nothing was counted yet. -/
theorem sizeIn_eq_zero (h : ∀ event ∈ history, event.1 ≤ after) : sizeIn history after last = 0 := by
  rw [sizeIn, List.filter_eq_nil_iff.2, List.map_nil, List.sum_nil]
  intro event hmem hcounted
  have := h event hmem
  have := (of_decide_eq_true hcounted).1
  omega

/-- The instants one after the other. -/
theorem sizeIn_split (mid : ℕ) (h1 : after ≤ mid) (h2 : mid ≤ last) :
    sizeIn history after last = sizeIn history after mid + sizeIn history mid last := by
  induction history with
  | nil => exact (add_zero 0).symm
  | cons event history ih =>
      rw [sizeIn_cons, sizeIn_cons, sizeIn_cons, ih, add_add_add_comm]
      congr 1
      by_cases hmid : event.1 ≤ mid
      · rw [if_neg (show ¬ (mid < event.1 ∧ event.1 ≤ last) by omega), add_zero]
        refine if_congr ?_ rfl rfl
        omega
      · rw [if_neg (show ¬ (after < event.1 ∧ event.1 ≤ mid) by omega), zero_add]
        refine if_congr ?_ rfl rfl
        omega

@[simp] theorem length_counts : (counts history after n).length = n := by
  rw [counts, List.length_map, List.length_range']

theorem counts_cons : counts history after (n + 1) =
    sizeIn history after (after + 1) :: counts history (after + 1) n := by
  rw [counts, List.range'_succ, List.map_cons, counts]

/-- The last place counts what came last. -/
theorem counts_concat : counts history after (n + 1) =
    counts history after n ++ [sizeIn history (after + n) (after + n + 1)] := by
  rw [counts, List.range'_concat, List.map_append, one_mul, counts]
  rfl

/-- The window counts what the history does. -/
theorem sum_counts : (counts history after n).sum = sizeIn history after (after + n) := by
  induction n generalizing after with
  | zero =>
      rw [sizeIn, List.filter_eq_nil_iff.2]
      · rfl
      · intro event _ hcounted
        have := of_decide_eq_true hcounted
        omega
  | succ n ih =>
      rw [counts_cons, List.sum_cons, ih, ← sizeIn_split (after + 1) (Nat.le_add_right after 1) (by omega)]
      congr 1
      omega

/-- **An instant goes by.** Nothing was counted in it. -/
theorem counts_advance (h : ∀ event ∈ history, event.1 ≤ after + (n + 1)) :
    counts history (after + 1) n ++ [0] = counts history (after + 1) (n + 1) := by
  rw [counts_concat, sizeIn_eq_zero]
  intro event hmem
  have := h event hmem
  omega

/-- **Something is counted** in the last instant. -/
theorem counts_append (a : α) :
    counts (history ++ [(after + (n + 1), a)]) after (n + 1) =
      (counts history after (n + 1)).modify n (· + a) := by
  have hold : counts (history ++ [(after + (n + 1), a)]) after n = counts history after n := by
    refine List.map_congr_left fun t ht => ?_
    have := List.mem_range'_1.1 ht
    rw [sizeIn_append, if_neg (by omega), add_zero]
  rw [counts_concat, counts_concat, hold, sizeIn_append, if_pos (by omega)]
  refine List.ext_getElem (by simp) fun j hj _ => ?_
  rw [List.getElem_modify]
  by_cases hlast : n = j
  · subst hlast
    rw [if_pos rfl, List.getElem_concat_length (by simp), List.getElem_concat_length (by simp)]
  · rw [if_neg hlast]
    rw [List.length_append, List.length_singleton, length_counts] at hj
    have hlt : j < (counts history after n).length := by
      rw [length_counts]
      omega
    rw [List.getElem_append_left hlt, List.getElem_append_left hlt]

/-- What was counted long ago is not in the window. -/
theorem counts_eq_replicate (h : ∀ event ∈ history, event.1 ≤ after) :
    counts history after n = List.replicate n 0 := by
  refine List.eq_replicate_iff.2 ⟨length_counts, fun count hcount => ?_⟩
  obtain ⟨t, ht, rfl⟩ := List.mem_map.1 hcount
  have := List.mem_range'_1.1 ht
  exact sizeIn_eq_zero fun event hmem => (h event hmem).trans this.1

end

end Window
