import Mathlib

/-!
# Event machines

A machine is a partial step function `step : σ → ε → Option σ`: an event that is not enabled in a
state has no successor. All nondeterminism is in the events, so a run is a list of events and
`exec` replays it. The module has the two rules the invariant proofs use: `exec_inv` for an
invariant every step keeps, and `exec_inv_of_meets` for one that is kept only by the steps that
meet a side condition (`Meets`). `Always` states a property of every state a run passes through.
-/

namespace Machine

variable {σ ε : Type*}

/-- The state after a list of events, `none` as soon as one of them is not enabled. -/
def exec (step : σ → ε → Option σ) : σ → List ε → Option σ
  | s, [] => some s
  | s, e :: es => (step s e).bind fun s' => exec step s' es

/-- Every step of the run meets `C`, a condition on the state before the step and the event. -/
def Meets (step : σ → ε → Option σ) (C : σ → ε → Prop) : σ → List ε → Prop
  | _, [] => True
  | s, e :: es => C s e ∧ ∀ s', step s e = some s' → Meets step C s' es

/-- Every state the run passes through satisfies `P`, the first and the last included. -/
def Always (step : σ → ε → Option σ) (P : σ → Prop) (s : σ) (es : List ε) : Prop :=
  ∀ pre s', pre <+: es → exec step s pre = some s' → P s'

section
variable {step : σ → ε → Option σ}

@[simp] theorem exec_nil (s : σ) : exec step s [] = some s := rfl

/-- A run begins with a step. -/
theorem exec_cons {s s' : σ} {e : ε} {es : List ε} :
    exec step s (e :: es) = some s' ↔
      ∃ s₁, step s e = some s₁ ∧ exec step s₁ es = some s' := by
  rw [exec, Option.bind_eq_some_iff]

/-- A run splits at an append of its events. -/
theorem exec_append {s s' : σ} {es fs : List ε} :
    exec step s (es ++ fs) = some s' ↔
      ∃ s₁, exec step s es = some s₁ ∧ exec step s₁ fs = some s' := by
  induction es generalizing s with
  | nil => simp
  | cons e es ih =>
      rw [List.cons_append, exec_cons]
      constructor
      · rintro ⟨s₁, h1, h2⟩
        obtain ⟨s₂, h3, h4⟩ := ih.1 h2
        exact ⟨s₂, exec_cons.2 ⟨s₁, h1, h3⟩, h4⟩
      · rintro ⟨s₂, h3, h4⟩
        obtain ⟨s₁, h1, h2⟩ := exec_cons.1 h3
        exact ⟨s₁, h1, ih.2 ⟨s₂, h2, h4⟩⟩

/-- **The invariant rule.** A property that every step keeps is kept by every run. -/
theorem exec_inv {I : σ → Prop} (hstep : ∀ s e s', I s → step s e = some s' → I s')
    {s s' : σ} {es : List ε} (h : exec step s es = some s') (h0 : I s) : I s' := by
  induction es generalizing s with
  | nil => cases h; exact h0
  | cons e es ih =>
      obtain ⟨s₁, h1, h2⟩ := exec_cons.1 h
      exact ih h2 (hstep s e s₁ h0 h1)

/-- The invariant rule under a side condition: a property kept by the steps that meet `C` is kept
by every run whose steps all meet `C`. -/
theorem exec_inv_of_meets {I : σ → Prop} {C : σ → ε → Prop}
    (hstep : ∀ s e s', I s → C s e → step s e = some s' → I s')
    {s s' : σ} {es : List ε} (hC : Meets step C s es) (h : exec step s es = some s')
    (h0 : I s) : I s' := by
  induction es generalizing s with
  | nil => cases h; exact h0
  | cons e es ih =>
      obtain ⟨s₁, h1, h2⟩ := exec_cons.1 h
      exact ih (hC.2 s₁ h1) h2 (hstep s e s₁ h0 hC.1 h1)

/-- The invariant rule with the history: a property of the state and of the events so far. -/
theorem exec_inv_history {I : σ → List ε → Prop}
    (hstep : ∀ s pre e s', I s pre → step s e = some s' → I s' (pre ++ [e]))
    {s s' : σ} {pre es : List ε} (h : exec step s es = some s') (h0 : I s pre) :
    I s' (pre ++ es) := by
  induction es generalizing s pre with
  | nil =>
      cases h
      rw [List.append_nil]
      exact h0
  | cons e es ih =>
      obtain ⟨s₁, h1, h2⟩ := exec_cons.1 h
      have hrest := ih h2 (hstep s pre e s₁ h0 h1)
      rwa [List.append_assoc] at hrest

/-- **The rule for progress.** If every step of a kind makes a measure smaller, then the measure bounds
the runs of these steps. -/
theorem exec_length_le {I : σ → Prop} {C : ε → Prop} {μ : σ → Nat}
    (hI : ∀ s e s', I s → step s e = some s' → I s')
    (hstep : ∀ s e s', I s → C e → step s e = some s' → μ s' < μ s)
    {s s' : σ} {es : List ε} (h : exec step s es = some s') (h0 : I s) (hC : ∀ e ∈ es, C e) :
    es.length + μ s' ≤ μ s := by
  induction es generalizing s with
  | nil =>
      cases h
      rw [List.length_nil, Nat.zero_add]
  | cons e es ih =>
      obtain ⟨s₁, h1, h2⟩ := exec_cons.1 h
      have hrest := ih h2 (hI s e s₁ h0 h1) fun e' he => hC e' (List.mem_cons_of_mem e he)
      have hless := hstep s e s₁ h0 (hC e List.mem_cons_self) h1
      rw [List.length_cons]
      omega

theorem Meets.cons {C : σ → ε → Prop} {s s' : σ} {e : ε} {es : List ε} (hC : C s e)
    (h : step s e = some s') (hm : Meets step C s' es) : Meets step C s (e :: es) :=
  ⟨hC, fun s'' hs'' => by cases h.symm.trans hs''; exact hm⟩

/-- A run meets a condition that each of its events meets in every state. -/
theorem meets_of_forall {C : σ → ε → Prop} {es : List ε} (h : ∀ e ∈ es, ∀ s, C s e) (s : σ) :
    Meets step C s es := by
  induction es generalizing s with
  | nil => trivial
  | cons e es ih =>
      exact ⟨h e List.mem_cons_self s, fun s' _ => ih (fun e' he => h e' (List.mem_cons_of_mem _ he)) s'⟩

/-- A run meets a condition if its two parts do. -/
theorem meets_append {C : σ → ε → Prop} {s : σ} {es fs : List ε} :
    Meets step C s (es ++ fs) ↔
      Meets step C s es ∧ ∀ s', exec step s es = some s' → Meets step C s' fs := by
  induction es generalizing s with
  | nil => simp [Meets]
  | cons e es ih =>
      rw [List.cons_append]
      constructor
      · rintro ⟨hC, hrest⟩
        refine ⟨⟨hC, fun s₁ h₁ => (ih.1 (hrest s₁ h₁)).1⟩, fun s' hs' => ?_⟩
        obtain ⟨s₁, h₁, h₂⟩ := exec_cons.1 hs'
        exact (ih.1 (hrest s₁ h₁)).2 s' h₂
      · rintro ⟨⟨hC, hfirst⟩, hsecond⟩
        exact ⟨hC, fun s₁ h₁ => ih.2 ⟨hfirst s₁ h₁, fun s' h₂ =>
          hsecond s' (exec_cons.2 ⟨s₁, h₁, h₂⟩)⟩⟩

/-- The first state of a run, and the states of the rest. -/
theorem always_cons {P : σ → Prop} {s s₁ : σ} {e : ε} {es : List ε} (h : step s e = some s₁) :
    Always step P s (e :: es) ↔ P s ∧ Always step P s₁ es := by
  constructor
  · intro hall
    refine ⟨hall [] s List.nil_prefix rfl, fun pre s' hpre hs' => ?_⟩
    exact hall (e :: pre) s' (List.prefix_cons_inj e |>.2 hpre) (exec_cons.2 ⟨s₁, h, hs'⟩)
  · rintro ⟨hs, hrest⟩ pre s' hpre hs'
    cases pre with
    | nil =>
        cases hs'
        exact hs
    | cons e' pre =>
        obtain ⟨rfl, hprefix⟩ := List.cons_prefix_cons.1 hpre
        obtain ⟨s₂, h₂, hs'⟩ := exec_cons.1 hs'
        cases h.symm.trans h₂
        exact hrest pre s' hprefix hs'

/-- **The rule for an exact side condition.** If a step keeps `P` just if it meets `C`, then `P` holds
throughout a run just if the steps of the run meet `C`. `I` is an invariant of every step. -/
theorem always_iff_meets {I P : σ → Prop} {C : σ → ε → Prop}
    (hI : ∀ s e s', I s → step s e = some s' → I s')
    (hstep : ∀ s e s', I s → P s → step s e = some s' → (P s' ↔ C s e))
    {s s' : σ} {es : List ε} (h : exec step s es = some s') (h0 : I s) (hP : P s) :
    Always step P s es ↔ Meets step C s es := by
  induction es generalizing s with
  | nil =>
      refine iff_of_true (fun pre s' hpre hs' => ?_) trivial
      cases List.prefix_nil.1 hpre
      cases hs'
      exact hP
  | cons e es ih =>
      obtain ⟨s₁, h1, h2⟩ := exec_cons.1 h
      have hkeeps := hstep s e s₁ h0 hP h1
      rw [always_cons h1, and_iff_right hP]
      constructor
      · intro hall
        have hP₁ : P s₁ := hall [] s₁ List.nil_prefix rfl
        exact Meets.cons (hkeeps.1 hP₁) h1 ((ih h2 (hI s e s₁ h0 h1) hP₁).1 hall)
      · rintro ⟨hC, hrest⟩
        exact (ih h2 (hI s e s₁ h0 h1) (hkeeps.2 hC)).2 (hrest s₁ h1)

/-- A beginning of a run whose steps meet `C` meets it too. -/
theorem Meets.of_append {C : σ → ε → Prop} {s : σ} {es fs : List ε}
    (h : Meets step C s (es ++ fs)) : Meets step C s es :=
  (meets_append.1 h).1

/-- Whether a run meets a condition is found out by running it. -/
instance decidableMeets {C : σ → ε → Prop} [∀ s e, Decidable (C s e)] :
    (s : σ) → (es : List ε) → Decidable (Meets step C s es)
  | _, [] => isTrue trivial
  | s, e :: es =>
      match h : step s e with
      | none => decidable_of_iff (C s e) (by simp [Meets, h])
      | some s' =>
          have := decidableMeets (C := C) s' es
          decidable_of_iff (C s e ∧ Meets step C s' es) (by simp [Meets, h])

end

/-! ## Simulation by another machine -/

section
variable {τ δ : Type*}

/-- What the events of a run do, each told as a list of events of another machine. -/
def expand (step : σ → ε → Option σ) (f : σ → ε → List δ) : σ → List ε → List δ
  | _, [] => []
  | s, e :: es => f s e ++ ((step s e).map fun s' => expand step f s' es).getD []

variable {step : σ → ε → Option σ} {step' : τ → δ → Option τ} {f : σ → ε → List δ} {abs : σ → τ}

theorem expand_cons {s s' : σ} {e : ε} {es : List ε} (h : step s e = some s') :
    expand step f s (e :: es) = f s e ++ expand step f s' es := by
  rw [expand, h]
  rfl

/-- **The simulation rule.** If every step that meets `C` is what the other machine does in the events
it is told as, from a state that machine can reach, then so is every run whose steps meet `C`. -/
theorem exec_expand {C : σ → ε → Prop} {t₀ : τ}
    (hsim : ∀ s e s' pre, exec step' t₀ pre = some (abs s) → C s e → step s e = some s' →
      exec step' (abs s) (f s e) = some (abs s'))
    {s s' : σ} {es : List ε} {pre : List δ} (h0 : exec step' t₀ pre = some (abs s))
    (hC : Meets step C s es) (h : exec step s es = some s') :
    exec step' t₀ (pre ++ expand step f s es) = some (abs s') := by
  induction es generalizing s pre with
  | nil =>
      cases h
      rw [expand, List.append_nil]
      exact h0
  | cons e es ih =>
      obtain ⟨s₁, h1, h2⟩ := exec_cons.1 h
      have hpre := exec_append.2 ⟨_, h0, hsim s e s₁ pre h0 hC.1 h1⟩
      rw [expand_cons h1, ← List.append_assoc]
      exact ih hpre (hC.2 s₁ h1) h2

end

end Machine
