import Mathlib

/-!
# Drawing a value by rejection

Raw values are drawn until one is accepted, and a function of that is the result. The results of a set
are drawn uniformly when each is that of as many accepted raw values as any other (`Fair`); then as many
sequences of raw values end with one as with any other, whatever the length (`Fair.card_runs_eq`).

A raw value is often a number below a power of two, and the result its remainder: `fair_mod_iff` says when
the remainders of the numbers below a bound are fair.
-/

namespace Rejection

universe u v
variable {ρ : Type u} {α : Type v}

section
variable (accept : ρ → Prop) [DecidablePred accept] (f : ρ → α)

/-- The result of raw values: that of the first which is accepted. -/
def result (xs : List ρ) : Option α := (xs.find? accept).map f

variable {accept f} {x : ρ} {xs : List ρ} {y : α}

/-- The first value is accepted. -/
theorem result_cons_of_accept (h : accept x) : result accept f (x :: xs) = some (f x) := by
  rw [result, List.find?_cons_of_pos (by simpa using h)]
  rfl

/-- The first value is not accepted, and the next is tried. -/
theorem result_cons_of_not (h : ¬ accept x) : result accept f (x :: xs) = result accept f xs := by
  rw [result, List.find?_cons_of_neg (by simpa using h)]
  rfl

/-- A result is that of an accepted value. -/
theorem exists_of_result (h : result accept f xs = some y) : ∃ x ∈ xs, accept x ∧ f x = y := by
  obtain ⟨x, hx, hy⟩ := Option.map_eq_some_iff.1 h
  exact ⟨x, List.mem_of_find?_eq_some hx, by simpa using List.find?_some hx, hy⟩

/-- There is no result as long as every value is rejected. -/
theorem result_eq_none_iff : result accept f xs = none ↔ ∀ x ∈ xs, ¬ accept x := by
  rw [result, Option.map_eq_none_iff, List.find?_eq_none]
  simp

end

/-! ## Sequences of raw values -/

/-- The sequences without a result are those of rejected values. -/
theorem card_exhausted [Fintype ρ] (accept : ρ → Prop) [DecidablePred accept] (f : ρ → α) (n : ℕ) :
    ({xs : Fin n → ρ | result accept f (List.ofFn xs) = none} : Finset _).card =
      ({x | ¬ accept x} : Finset ρ).card ^ n := by
  rw [← Fintype.card_piFinset_const]
  refine congrArg Finset.card (Finset.ext fun xs => ?_)
  rw [Finset.mem_filter_univ, Fintype.mem_piFinset, result_eq_none_iff, List.forall_mem_ofFn_iff]
  exact forall_congr' fun i => by rw [Finset.mem_filter_univ]

section
variable [Fintype ρ] [DecidableEq α] (accept : ρ → Prop) [DecidablePred accept] (f : ρ → α)

/-- The accepted raw values with a result. -/
def fiber (y : α) : Finset ρ := {x | accept x ∧ f x = y}

/-- The results of a set are those of equally many accepted values. -/
def Fair (s : Set α) : Prop := ∀ y ∈ s, ∀ z ∈ s, (fiber accept f y).card = (fiber accept f z).card

/-- The sequences of so many raw values with a result. -/
def runs (n : ℕ) (y : α) : Finset (Fin n → ρ) := {xs | result accept f (List.ofFn xs) = some y}

variable {accept f} {n : ℕ} {y z : α}

@[simp] theorem mem_fiber {x : ρ} : x ∈ fiber accept f y ↔ accept x ∧ f x = y := by
  rw [fiber, Finset.mem_filter_univ]

@[simp] theorem mem_runs {xs : Fin n → ρ} :
    xs ∈ runs accept f n y ↔ result accept f (List.ofFn xs) = some y := by
  rw [runs, Finset.mem_filter_univ]

theorem cons_mem_runs {x : ρ} {xs : Fin n → ρ} : Fin.cons x xs ∈ runs accept f (n + 1) y ↔
    x ∈ fiber accept f y ∨ ¬ accept x ∧ xs ∈ runs accept f n y := by
  rw [mem_runs, mem_fiber, mem_runs, List.ofFn_cons]
  by_cases hx : accept x
  · rw [result_cons_of_accept hx, Option.some_inj]
    simp [hx]
  · rw [result_cons_of_not hx]
    simp [hx]

/-- A sequence begins with an accepted value and goes on as it likes, or with a rejected one. -/
theorem card_runs_succ : (runs accept f (n + 1) y).card =
    (fiber accept f y).card * Fintype.card ρ ^ n +
      ({x | ¬ accept x} : Finset ρ).card * (runs accept f n y).card := by
  classical
  have hdisjoint : Disjoint (fiber accept f y ×ˢ (Finset.univ : Finset (Fin n → ρ)))
      (({x | ¬ accept x} : Finset ρ) ×ˢ runs accept f n y) := by
    refine Finset.disjoint_product.2 (.inl (Finset.disjoint_left.2 fun x hx hnot => ?_))
    rw [Finset.mem_filter_univ] at hnot
    exact hnot (mem_fiber.1 hx).1
  have hcons : ∀ p : ρ × (Fin n → ρ),
      p ∈ (fiber accept f y ×ˢ (Finset.univ : Finset (Fin n → ρ))) ∪
          (({x | ¬ accept x} : Finset ρ) ×ˢ runs accept f n y) ↔
        Fin.consEquiv (fun _ => ρ) p ∈ runs accept f (n + 1) y := by
    intro p
    change _ ↔ (Fin.cons p.1 p.2 : Fin (n + 1) → ρ) ∈ _
    rw [cons_mem_runs, Finset.mem_union, Finset.mem_product, Finset.mem_product, Finset.mem_filter_univ]
    simp
  rw [← Finset.card_equiv _ hcons, Finset.card_union_of_disjoint hdisjoint, Finset.card_product,
    Finset.card_product, Finset.card_univ, Fintype.card_fun, Fintype.card_fin]

/-- **Uniform draws.** As many sequences of each length end with one result as with another. -/
theorem Fair.card_runs_eq {s : Set α} (h : Fair accept f s) (hy : y ∈ s) (hz : z ∈ s) :
    (runs accept f n y).card = (runs accept f n z).card := by
  induction n with
  | zero => rfl
  | succ n ih => rw [card_runs_succ, card_runs_succ, h y hy z hz, ih]

end

/-! ## Remainders -/

/-- The numbers below a bound with the same rest. -/
theorem card_mod_eq {r m j : ℕ} (hr : 0 < r) (hj : j < r) :
    ({x ∈ Finset.range m | x % r = j}).card = m / r + if j < m % r then 1 else 0 := by
  have hcount := Nat.count_modEq_card m hr j
  rw [Nat.count_eq_card_filter_range, Nat.mod_eq_of_lt hj] at hcount
  rw [← hcount]
  refine congrArg Finset.card (Finset.filter_congr fun x _ => ?_)
  rw [Nat.ModEq, Nat.mod_eq_of_lt hj]

/-- **Fair remainders.** The numbers below a bound have each remainder equally often just if the bound is a
multiple. -/
theorem fair_mod_iff {r m : ℕ} (hr : 0 < r) :
    (∀ j < r, ∀ k < r, ({x ∈ Finset.range m | x % r = j}).card =
      ({x ∈ Finset.range m | x % r = k}).card) ↔ r ∣ m := by
  constructor
  · intro h
    have hlast : r - 1 < r := Nat.sub_lt hr Nat.one_pos
    have hends := h 0 hr (r - 1) hlast
    rw [card_mod_eq hr hr, card_mod_eq hr hlast, Nat.add_left_cancel_iff] at hends
    by_contra hnot
    have hpos : 0 < m % r := Nat.pos_of_ne_zero fun hzero => hnot (Nat.dvd_of_mod_eq_zero hzero)
    have hle : ¬ r - 1 < m % r := Nat.not_lt.2 (Nat.le_sub_one_of_lt (Nat.mod_lt m hr))
    rw [if_pos hpos, if_neg hle] at hends
    cases hends
  · intro h j hj k hk
    have hzero : m % r = 0 := Nat.mod_eq_zero_of_dvd h
    rw [card_mod_eq hr hj, card_mod_eq hr hk, hzero, if_neg (Nat.not_lt_zero j),
      if_neg (Nat.not_lt_zero k)]

end Rejection
