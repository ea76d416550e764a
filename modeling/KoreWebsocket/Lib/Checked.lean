import Mathlib

/-!
# Computations that may stop

Lemmas for functions in `Except ε`: how a sequence of calls reduces when the first returns, and what
its return says about each of them.
-/

namespace Checked

universe u v
variable {ε : Type u} {α β : Type v}

@[simp] theorem ok_bind (a : α) (f : α → Except ε β) : (Except.ok a >>= f) = f a := rfl

@[simp] theorem error_bind (e : ε) (f : α → Except ε β) : (Except.error e >>= f) = .error e := rfl

/-- A sequence returns when its first part returns and the rest returns on that. -/
theorem bind_eq_ok {x : Except ε α} {f : α → Except ε β} {b : β} :
    (x >>= f) = .ok b ↔ ∃ a, x = .ok a ∧ f a = .ok b := by
  cases x with
  | error e => simp
  | ok a => simp

/-- A sequence stops in its first part, or in the rest. -/
theorem bind_eq_error {x : Except ε α} {f : α → Except ε β} {e : ε} :
    (x >>= f) = .error e ↔ x = .error e ∨ ∃ a, x = .ok a ∧ f a = .error e := by
  cases x with
  | error e' => simp
  | ok a => simp

/-- What is left of a computation whose error does not matter. -/
theorem toOption_eq_some {x : Except ε α} {a : α} : x.toOption = some a ↔ x = .ok a := by
  cases x with
  | error e => exact ⟨nofun, nofun⟩
  | ok b => exact ⟨fun h => congrArg Except.ok (Option.some.inj h), fun h => congrArg some (Except.ok.inj h)⟩

/-- **The invariant rule for a loop that may stop.** If every round returns in a state with the
invariant and keeps it, the loop returns and keeps it. -/
theorem foldlM_ok {σ : Type v} {f : σ → α → Except ε σ} {I : σ → Prop}
    (hstep : ∀ s a, I s → ∃ s', f s a = .ok s' ∧ I s') (as : List α) :
    ∀ s, I s → ∃ s', as.foldlM f s = .ok s' ∧ I s' := by
  induction as with
  | nil => exact fun s hs => ⟨s, rfl, hs⟩
  | cons a as ih =>
      intro s hs
      obtain ⟨s₁, h₁, hs₁⟩ := hstep s a hs
      obtain ⟨s₂, h₂, hs₂⟩ := ih s₁ hs₁
      refine ⟨s₂, ?_, hs₂⟩
      rw [List.foldlM_cons, h₁, ok_bind, h₂]

/-- What every round that returns keeps is kept by a loop that returns. -/
theorem foldlM_inv {σ : Type v} {f : σ → α → Except ε σ} {I : σ → Prop}
    (hstep : ∀ s a s', I s → f s a = .ok s' → I s') {as : List α} {s s' : σ}
    (h : as.foldlM f s = .ok s') (h0 : I s) : I s' := by
  induction as generalizing s with
  | nil =>
      cases h
      exact h0
  | cons a as ih =>
      rw [List.foldlM_cons] at h
      obtain ⟨s₁, h₁, h₂⟩ := bind_eq_ok.1 h
      exact ih h₂ (hstep s a s₁ h0 h₁)

/-! ## What a computation ends with -/

/-- The result satisfies `P` if there is one, or else the error satisfies `Q`. -/
def Ends (x : Except ε α) (P : α → Prop) (Q : ε → Prop) : Prop :=
  match x with
  | .ok a => P a
  | .error e => Q e

section
variable {P P' : α → Prop} {Q Q' : ε → Prop}

@[simp] theorem ends_ok {a : α} : Ends (.ok a) P Q ↔ P a := Iff.rfl

@[simp] theorem ends_error {e : ε} : Ends (.error e) P Q ↔ Q e := Iff.rfl

@[simp] theorem ends_pure {a : α} : Ends (pure a) P Q ↔ P a := Iff.rfl

theorem Ends.mono {x : Except ε α} (h : Ends x P Q) (hP : ∀ a, P a → P' a) (hQ : ∀ e, Q e → Q' e) :
    Ends x P' Q' := by
  cases x with
  | ok a => exact hP a h
  | error e => exact hQ e h

/-- If the end is a value, it has the property of the values. -/
theorem Ends.of_ok {x : Except ε α} {a : α} (h : Ends x P Q) (hx : x = .ok a) : P a := by
  rw [hx] at h
  exact h

/-- If the end is an error, it has the property of the errors. -/
theorem Ends.of_error {x : Except ε α} {e : ε} (h : Ends x P Q) (hx : x = .error e) : Q e := by
  rw [hx] at h
  exact h

/-- A result that is known is what the computation ends with. -/
theorem Ends.self (x : Except ε α) : Ends x (fun a => x = .ok a) (fun e => x = .error e) := by
  cases x <;> rfl

/-- A computation without an error returns. -/
theorem Ends.exists_ok {x : Except ε α} (h : Ends x P fun _ => False) : ∃ a, x = .ok a ∧ P a := by
  cases x with
  | ok a => exact ⟨a, rfl, h⟩
  | error e => exact h.elim

/-- **The rule for a sequence.** -/
theorem Ends.bind {x : Except ε α} {f : α → Except ε β} {R : β → Prop} (h : Ends x P Q)
    (hf : ∀ a, P a → Ends (f a) R Q) : Ends (x >>= f) R Q := by
  cases x with
  | ok a => exact hf a h
  | error e => exact h

/-- The rule for a sequence whose first part has two branches. -/
theorem Ends.ite_bind {c : Prop} [Decidable c] {x y : Except ε α} {f : α → Except ε β}
    {R : β → Prop} (hx : c → Ends x P Q) (hy : ¬ c → Ends y P Q) (hf : ∀ a, P a → Ends (f a) R Q) :
    Ends (if c then x >>= f else y >>= f) R Q := by
  split
  case isTrue h => exact (hx h).bind hf
  case isFalse h => exact (hy h).bind hf

/-- **The rule for a list of calls.** -/
theorem ends_mapM {f : α → Except ε β} {R : β → Prop} {as : List α}
    (h : ∀ a ∈ as, Ends (f a) R Q) : Ends (as.mapM f) (fun bs => ∀ b ∈ bs, R b) Q := by
  induction as with
  | nil => exact fun b hb => absurd hb List.not_mem_nil
  | cons a as ih =>
      rw [List.mapM_cons]
      refine (h a List.mem_cons_self).bind fun b hb => ?_
      refine (ih fun a' ha' => h a' (List.mem_cons_of_mem a ha')).bind fun bs hbs => ?_
      exact List.forall_mem_cons.2 ⟨hb, hbs⟩

/-- A list of calls returns a result for each. -/
theorem length_mapM {f : α → Except ε β} {as : List α} {bs : List β} (h : as.mapM f = .ok bs) :
    bs.length = as.length := by
  induction as generalizing bs with
  | nil =>
      cases h
      rfl
  | cons a as ih =>
      rw [List.mapM_cons] at h
      obtain ⟨b, -, h⟩ := bind_eq_ok.1 h
      obtain ⟨rest, hrest, h⟩ := bind_eq_ok.1 h
      cases h
      rw [List.length_cons, List.length_cons, ih hrest]

/-- The rule for a list of calls without results. -/
theorem ends_forM {f : α → Except ε PUnit} {as : List α}
    (h : ∀ a ∈ as, Ends (f a) (fun _ => True) Q) : Ends (as.forM f) (fun _ => True) Q := by
  induction as with
  | nil => trivial
  | cons a as ih =>
      change Ends (f a >>= fun _ => as.forM f) _ _
      refine (h a List.mem_cons_self).bind fun _ _ => ?_
      exact ih fun a' ha' => h a' (List.mem_cons_of_mem a ha')

/-- **The rule for a loop.** A round keeps the invariant or ends with an error. -/
theorem ends_foldlM {σ : Type v} {f : σ → α → Except ε σ} {I : σ → Prop} {as : List α}
    (h : ∀ s, ∀ a ∈ as, I s → Ends (f s a) I Q) {s : σ} (hs : I s) : Ends (as.foldlM f s) I Q := by
  induction as generalizing s with
  | nil => exact hs
  | cons a as ih =>
      rw [List.foldlM_cons]
      refine (h s a List.mem_cons_self hs).bind fun s' hs' => ?_
      exact ih (fun s a' ha' => h s a' (List.mem_cons_of_mem a ha')) hs'

end

end Checked
