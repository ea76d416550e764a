import KoreWebsocket.Lib.Checked

/-!
# Loops

A `while` loop whose body may stop, with fuel. `Ends` says after how many rounds it ends, and where. An
invariant that is indexed by the round gives the end (`exists_ends`) or the round that stops
(`run_eq_error`), and a loop whose guard always holds does not return (`run_ne_ok`).
-/

namespace While

open Checked

universe u v
variable {σ : Type u} {ε : Type v} (guard : σ → Prop) (body : σ → Except ε σ)

/-- The loop goes on for so many rounds, from one state to another. -/
def Rounds : ℕ → σ → σ → Prop
  | 0, s, s' => s = s'
  | n + 1, s, s' => guard s ∧ ∃ s₁, body s = .ok s₁ ∧ Rounds n s₁ s'

/-- The loop ends after so many rounds. -/
def Ends (n : ℕ) (s s' : σ) : Prop := Rounds guard body n s s' ∧ ¬ guard s'

/-- `while (guard) body`, which stops when the fuel is used up. -/
def run [DecidablePred guard] (stop : ε) : ℕ → σ → Except ε σ
  | 0, _ => .error stop
  | fuel + 1, s => if guard s then body s >>= run stop fuel else .ok s

section
variable {guard body} {stop e : ε} {n fuel : ℕ} {s s' : σ}

/-- **The invariant rule.** An invariant that each of `n` rounds keeps holds after them. -/
theorem exists_rounds {I : ℕ → σ → Prop}
    (hround : ∀ k < n, ∀ s, I k s → guard s ∧ ∃ s', body s = .ok s' ∧ I (k + 1) s') (h : I 0 s) :
    ∃ s', Rounds guard body n s s' ∧ I n s' := by
  have hfrom : ∀ m k s, k + m = n → I k s → ∃ s', Rounds guard body m s s' ∧ I n s' := by
    intro m
    induction m with
    | zero =>
        rintro k s rfl hs
        exact ⟨s, rfl, hs⟩
    | succ m ih =>
        intro k s hk hs
        obtain ⟨hguard, s₁, hbody, hs₁⟩ := hround k (by omega) s hs
        obtain ⟨s', hrounds, hs'⟩ := ih (k + 1) s₁ (by omega) hs₁
        exact ⟨s', ⟨hguard, s₁, hbody, hrounds⟩, hs'⟩
  exact hfrom n 0 s (Nat.zero_add n) h

/-- **The rule for a loop that ends** after `n` rounds. -/
theorem exists_ends {I : ℕ → σ → Prop}
    (hround : ∀ k < n, ∀ s, I k s → guard s ∧ ∃ s', body s = .ok s' ∧ I (k + 1) s')
    (hend : ∀ s, I n s → ¬ guard s) (h : I 0 s) : ∃ s', Ends guard body n s s' ∧ I n s' := by
  obtain ⟨s', hrounds, hs'⟩ := exists_rounds hround h
  exact ⟨s', ⟨hrounds, hend s' hs'⟩, hs'⟩

variable [DecidablePred guard]

/-- The rounds of a loop with enough fuel. -/
theorem Rounds.run (h : Rounds guard body n s s') :
    While.run guard body stop (n + fuel) s = While.run guard body stop fuel s' := by
  induction n generalizing s with
  | zero =>
      cases h
      rw [Nat.zero_add]
  | succ n ih =>
      obtain ⟨hguard, s₁, hbody, hrounds⟩ := h
      rw [Nat.succ_add, While.run, if_pos hguard, hbody, ok_bind, ih hrounds]

theorem Ends.run (h : Ends guard body n s s') (hfuel : n < fuel) :
    While.run guard body stop fuel s = .ok s' := by
  obtain ⟨k, rfl⟩ := Nat.exists_eq_add_of_lt hfuel
  rw [Nat.add_assoc, h.1.run, While.run, if_neg h.2]

/-- **The rule for a loop that stops** in the round after `n`. -/
theorem run_eq_error {I : ℕ → σ → Prop}
    (hround : ∀ k < n, ∀ s, I k s → guard s ∧ ∃ s', body s = .ok s' ∧ I (k + 1) s')
    (hstop : ∀ s, I n s → guard s ∧ body s = .error e) (h : I 0 s) (hfuel : n < fuel) :
    run guard body stop fuel s = .error e := by
  obtain ⟨s', hrounds, hs'⟩ := exists_rounds hround h
  obtain ⟨hguard, hbody⟩ := hstop s' hs'
  obtain ⟨k, rfl⟩ := Nat.exists_eq_add_of_lt hfuel
  rw [Nat.add_assoc, hrounds.run, run, if_pos hguard, hbody]
  rfl

/-- **The rule for a loop that does not return**, since its guard always holds. -/
theorem run_ne_ok (hguard : ∀ s, guard s) : run guard body stop fuel s ≠ .ok s' := by
  induction fuel generalizing s with
  | zero => nofun
  | succ fuel ih =>
      rw [run, if_pos (hguard s)]
      intro h
      obtain ⟨s₁, -, hrun⟩ := bind_eq_ok.1 h
      exact ih hrun

end

end While
