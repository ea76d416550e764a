import Mathlib
import KoreWebsocket.Pgsql.Accounting

/-!
# Who owns a connection

A live connection should be in the list of free connections, or be the connection of exactly one
`kore_pgsql`. `Own` is the invariant of the pool that says so, in every state and not only between
the calls of the event loop. Three places break it, and `Misstep` names them: `kore_pgsql_setup`
stores over a connection that the `kore_pgsql` still has, `kore_pgsql_cleanup` clears the connection
a callback has just set up, and `pgsql_conn_next` destroys a connection that a waiter has destroyed
before it. An error event on a connection without a job, which only a `kore_pgsql_setup` without
flags can watch, leaves its owner behind.

`connections_owned_without_missteps`: a run without them keeps the invariant.
-/

namespace KoreWebsocket.Pgsql.Pool

open Machine

/-- Each live connection is free, once and without a job, or belongs to exactly one `kore_pgsql`. -/
def Owned (st : St) : Prop :=
  ∀ c k, st.conns c = some k →
    (st.free.count c = 1 ∧ k.free = true ∧ k.job = none) ∨
    (c ∉ st.free ∧ ∃! p, (st.pgs p).conn = some c)

/-- The pass of `pgsql_conn_next` returns to `kore_pgsql_setup`, which stores the result. -/
def Stores (st : St) (db : String) (o : Scan) : Prop :=
  o.inError = false ∨ st.free.find? (fun c => (st.conns c).any (·.name == db)) = none

/-- The event loses or destroys a connection it should not. -/
def Misstep (st : St) : Ev → Prop
  | .scan o => ∃ p db rest, st.stack = .next p db :: rest ∧ Stores st db o ∧ (st.pgs p).conn ≠ none
  | .ret => (∃ p rest, st.stack = .cleanupTail p :: rest ∧ (st.pgs p).conn ≠ none) ∨
      ∃ c rest, st.stack = .rolled c true :: rest ∧ st.conns c = none
  | .error c => ∃ k, st.conns c = some k ∧ k.job = none ∧ k.free = false
  | _ => False

/-! ## The invariant -/

/-- The frame belongs to an asynchronous `kore_pgsql`, or to none. -/
def Frame.AsyncOwner (pgs : Nat → Pg) : Frame → Prop
  | .user p | .next p _ | .cleanupTail p | .handle p => (pgs p).async = true
  | _ => True

/-- A failed `ROLLBACK` is being handled below. -/
def UnderRollback (fs : List Frame) : Prop := ∃ c, Frame.rolled c true ∈ fs

/-- Only waiters act while a failed `ROLLBACK` is being handled, and they are asynchronous. -/
def AsyncAbove (pgs : Nat → Pg) : List Frame → Prop
  | [] => True
  | f :: rest => (UnderRollback rest → f.AsyncOwner pgs) ∧ AsyncAbove pgs rest

/-- The invariant of the pool. -/
structure Own (st : St) : Prop where
  free_live : ∀ c ∈ st.free, ∃ k, st.conns c = some k ∧ k.free = true ∧ k.job = none
  free_nodup : st.free.Nodup
  free_unowned : ∀ c ∈ st.free, ∀ p, (st.pgs p).conn ≠ some c
  owned_live : ∀ p c, (st.pgs p).conn = some c → ∃ k, st.conns c = some k ∧ k.free = false
  owned_inj : ∀ p q c, (st.pgs p).conn = some c → (st.pgs q).conn = some c → p = q
  held : ∀ c k, st.conns c = some k → c ∈ st.free ∨ ∃ p, (st.pgs p).conn = some c
  job : ∀ c k p, st.conns c = some k → k.job = some p → (st.pgs p).conn = some c
  lt : ∀ c k, st.conns c = some k → c < st.fresh
  destroyed : ∀ c ∈ st.destroyed, st.conns c = none ∧ c < st.fresh
  destroyed_nodup : st.destroyed.Nodup
  waiting : ∀ e ∈ st.waitq, (st.pgs e.2).async = true
  above : AsyncAbove st.pgs st.stack
  rolled_job : ∀ c p k, .rolled c true ∈ st.stack → (st.pgs p).conn = some c →
    st.conns c = some k → k.job = some p

/-- Every connection is free or has one owner. -/
theorem Own.owned {st : St} (h : Own st) : Owned st := by
  intro c k hk
  rcases h.held c k hk with hf | ⟨p, hp⟩
  · obtain ⟨k', hk', h1, h2⟩ := h.free_live c hf
    cases hk.symm.trans hk'
    exact .inl ⟨List.count_eq_one_of_mem h.free_nodup hf, h1, h2⟩
  · exact .inr ⟨fun hf => h.free_unowned c hf p hp, p, hp, fun q hq => h.owned_inj q p c hq hp⟩

/-- A pool without connections. -/
theorem IsInit.own {st : St} (h : IsInit st) : Own st := by
  obtain ⟨-, h2, h3, h4, h5, h6, h7, h8⟩ := h
  constructor <;> simp [h2, h4, h5, h6, h7, h8, AsyncAbove]

section
variable {st st' : St}

/-- A query that has become asynchronous stays so. -/
theorem AsyncAbove.mono {pgs pgs' : Nat → Pg}
    (hp : ∀ p, (pgs p).async = true → (pgs' p).async = true) {fs : List Frame}
    (h : AsyncAbove pgs fs) : AsyncAbove pgs' fs := by
  induction fs with
  | nil => trivial
  | cons f fs ih =>
      refine ⟨fun hu => ?_, ih h.2⟩
      have := h.1 hu
      cases f <;> first | exact hp _ this | trivial

/-- Frames of an asynchronous owner, or of none, may be left on the stack. -/
theorem AsyncAbove.append {pgs : Nat → Pg} {fs rest : List Frame} (h : AsyncAbove pgs rest)
    (hn : ∀ c, .rolled c true ∉ fs) (hf : UnderRollback rest → ∀ f ∈ fs, f.AsyncOwner pgs) :
    AsyncAbove pgs (fs ++ rest) := by
  induction fs with
  | nil => exact h
  | cons f fs ih =>
      refine ⟨fun ⟨c, hc⟩ => hf ⟨c, ?_⟩ f (.head _),
        ih (fun c hc => hn c (.tail _ hc)) fun hu g hg => hf hu g (.tail _ hg)⟩
      exact (List.mem_append.1 hc).resolve_left fun hc => hn c (.tail _ hc)

/-- A step that only moves things the owners do not depend on. -/
theorem Own.of_quiet (h : Own st) (hfresh : st'.fresh = st.fresh)
    (hd : st'.destroyed = st.destroyed) (hf : st'.free.Perm st.free)
    (hc : ∀ c, (st'.conns c).map (fun k => (k.free, k.job)) =
      (st.conns c).map fun k => (k.free, k.job))
    (hp : ∀ p, (st'.pgs p).conn = (st.pgs p).conn)
    (hw : ∀ e ∈ st'.waitq, (st'.pgs e.2).async = true)
    (hs : AsyncAbove st'.pgs st'.stack)
    (hr : ∀ c, .rolled c true ∈ st'.stack → .rolled c true ∈ st.stack ∨ c ∈ st.free) :
    Own st' := by
  have hto : ∀ {c k}, st'.conns c = some k →
      ∃ k', st.conns c = some k' ∧ k'.free = k.free ∧ k'.job = k.job := by
    intro c k hk
    have := hc c
    rw [hk] at this
    obtain ⟨k', hk', he⟩ := Option.map_eq_some_iff.1 this.symm
    exact ⟨k', hk', by simpa using congrArg Prod.fst he, by simpa using congrArg Prod.snd he⟩
  have hfrom : ∀ {c k}, st.conns c = some k →
      ∃ k', st'.conns c = some k' ∧ k'.free = k.free ∧ k'.job = k.job := by
    intro c k hk
    have := hc c
    rw [hk] at this
    obtain ⟨k', hk', he⟩ := Option.map_eq_some_iff.1 this
    exact ⟨k', hk', by simpa using congrArg Prod.fst he, by simpa using congrArg Prod.snd he⟩
  exact {
    free_live := by
      intro c hcf
      obtain ⟨k, hk, h1, h2⟩ := h.free_live c (hf.mem_iff.1 hcf)
      obtain ⟨k', hk', h3, h4⟩ := hfrom hk
      exact ⟨k', hk', h3.trans h1, h4.trans h2⟩
    free_nodup := hf.nodup_iff.2 h.free_nodup
    free_unowned := by
      intro c hcf p
      rw [hp]
      exact h.free_unowned c (hf.mem_iff.1 hcf) p
    owned_live := by
      intro p c hpc
      rw [hp] at hpc
      obtain ⟨k, hk, h1⟩ := h.owned_live p c hpc
      obtain ⟨k', hk', h3, -⟩ := hfrom hk
      exact ⟨k', hk', h3.trans h1⟩
    owned_inj := by
      intro p q c h1 h2
      rw [hp] at h1 h2
      exact h.owned_inj p q c h1 h2
    held := by
      intro c k hk
      obtain ⟨k', hk', -⟩ := hto hk
      simp only [hp, hf.mem_iff]
      exact h.held c k' hk'
    job := by
      intro c k p hk hj
      obtain ⟨k', hk', -, h4⟩ := hto hk
      rw [hp]; exact h.job c k' p hk' (h4.trans hj)
    lt := by
      intro c k hk
      obtain ⟨k', hk', -⟩ := hto hk
      rw [hfresh]; exact h.lt c k' hk'
    destroyed := by
      rw [hd, hfresh]
      intro c hcd
      refine ⟨?_, (h.destroyed c hcd).2⟩
      cases hk : st'.conns c with
      | none => rfl
      | some k =>
          obtain ⟨k', hk', -⟩ := hto hk
          rw [(h.destroyed c hcd).1] at hk'; cases hk'
    destroyed_nodup := by
      rw [hd]
      exact h.destroyed_nodup
    waiting := hw
    above := hs
    rolled_job := by
      intro c p k hcr hpc hk
      obtain ⟨k', hk', -, h4⟩ := hto hk
      rw [hp] at hpc
      rcases hr c hcr with hcr | hcf
      · rw [← h4]; exact h.rolled_job c p k' hcr hpc hk'
      · exact absurd hpc (h.free_unowned c hcf p) }

/-! ## The operations on connections -/

/-- A connection is given back: it is free, without a job, and its owner has none. -/
theorem Own.release (h : Own st) {p c : Nat} (hpc : (st.pgs p).conn = some c) {f : Conn → Conn}
    (hff : ∀ k, (f k).free = true ∧ (f k).job = none) {v : Pg} (hv : v.conn = none)
    (hva : v.async = (st.pgs p).async) (fs : List Frame) (hn : ∀ c, .rolled c true ∉ fs)
    (hfs : UnderRollback st.stack → ∀ g ∈ fs, g.AsyncOwner st.pgs) :
    Own { st with conns := Function.update st.conns c ((st.conns c).map f)
                  free := st.free ++ [c]
                  pgs := Function.update st.pgs p v
                  stack := fs ++ st.stack } := by
  obtain ⟨k₀, hk₀, hkf⟩ := h.owned_live p c hpc
  have hcf : c ∉ st.free := fun hm => h.free_unowned c hm p hpc
  have hself : Function.update st.conns c ((st.conns c).map f) c = some (f k₀) := by
    rw [Function.update_self, hk₀]; rfl
  have hother : ∀ {c'}, c' ≠ c → Function.update st.conns c ((st.conns c).map f) c' = st.conns c' :=
    fun hne => Function.update_of_ne hne _ _
  -- the owner of any other connection is another one
  have hconn : ∀ q c', (Function.update st.pgs p v q).conn = some c' ↔
      (st.pgs q).conn = some c' ∧ c' ≠ c := by
    intro q c'
    by_cases hq : q = p
    · subst hq
      rw [Function.update_self, hv, hpc]
      exact ⟨fun he => absurd he (by simp), fun ⟨he, hne⟩ => absurd (Option.some.inj he).symm hne⟩
    · rw [Function.update_of_ne hq]
      exact ⟨fun he => ⟨he, fun hcc => hq (h.owned_inj q p c (hcc ▸ he) hpc)⟩, fun he => he.1⟩
  have hasync : ∀ q, (st.pgs q).async = true → (Function.update st.pgs p v q).async = true := by
    intro q hq
    by_cases hqp : q = p
    · subst hqp; rw [Function.update_self, hva]; exact hq
    · rw [Function.update_of_ne hqp]; exact hq
  exact {
    free_live := by
      intro c' hc'
      rcases List.mem_append.1 hc' with hc' | hc'
      · have hne : c' ≠ c := fun he => hcf (he ▸ hc')
        exact (congrArg (fun o => ∃ k, o = some k ∧ k.free = true ∧ k.job = none)
          (hother hne)).mpr (h.free_live c' hc')
      · obtain rfl := List.mem_singleton.1 hc'
        exact ⟨f k₀, hself, hff k₀⟩
    free_nodup := List.nodup_append.2 ⟨h.free_nodup, List.nodup_singleton c, fun a ha b hb he =>
      hcf (List.mem_singleton.1 hb ▸ he ▸ ha)⟩
    free_unowned := by
      intro c' hc' q hq
      obtain ⟨h1, h2⟩ := (hconn q c').1 hq
      rcases List.mem_append.1 hc' with hc' | hc'
      · exact h.free_unowned c' hc' q h1
      · exact h2 (List.mem_singleton.1 hc')
    owned_live := by
      intro q c' hq
      obtain ⟨h1, h2⟩ := (hconn q c').1 hq
      exact (congrArg (fun o => ∃ k, o = some k ∧ k.free = false) (hother h2)).mpr
        (h.owned_live q c' h1)
    owned_inj := by
      intro q r c' hq hr
      exact h.owned_inj q r c' ((hconn q c').1 hq).1 ((hconn r c').1 hr).1
    held := by
      intro c' k hk
      by_cases hne : c' = c
      · exact .inl (List.mem_append_right _ (List.mem_singleton.2 hne))
      · rcases h.held c' k ((hother hne).symm.trans hk) with h1 | ⟨q, hq⟩
        · exact .inl (List.mem_append_left _ h1)
        · exact .inr ⟨q, (hconn q c').2 ⟨hq, hne⟩⟩
    job := by
      intro c' k q hk hj
      by_cases hne : c' = c
      · subst hne
        cases hself.symm.trans hk
        rw [(hff k₀).2] at hj; cases hj
      · exact (hconn q c').2 ⟨h.job c' k q ((hother hne).symm.trans hk) hj, hne⟩
    lt := by
      intro c' k hk
      by_cases hne : c' = c
      · rw [hne]; exact h.lt c k₀ hk₀
      · exact h.lt c' k ((hother hne).symm.trans hk)
    destroyed := by
      intro c' hc'
      obtain ⟨h1, h2⟩ := h.destroyed c' hc'
      have hne : c' ≠ c := fun he => by rw [he, hk₀] at h1; cases h1
      exact ⟨(hother hne).trans h1, h2⟩
    destroyed_nodup := h.destroyed_nodup
    waiting := fun e he => hasync _ (h.waiting e he)
    above := (h.above.append hn hfs).mono hasync
    rolled_job := by
      intro c' q k hc' hq hk
      obtain ⟨h1, h2⟩ := (hconn q c').1 hq
      refine h.rolled_job c' q k ?_ h1 ((hother h2).symm.trans hk)
      exact (List.mem_append.1 hc').resolve_left (hn c') }

/-- A free connection is given to a `kore_pgsql` that has none. -/
theorem Own.store (h : Own st) {p c : Nat} (hp : (st.pgs p).conn = none) (hcf : c ∈ st.free)
    (hu : UnderRollback st.stack → (st.pgs p).async = true) : Own (st.storeConn p c) := by
  obtain ⟨k₀, hk₀, hkf, hkj⟩ := h.free_live c hcf
  have hself : (st.storeConn p c).conns c = some { k₀ with
      free := false, job := if (st.pgs p).async then some p else k₀.job } :=
    (Function.update_self _ _ _).trans (by rw [hk₀]; rfl)
  have hother : ∀ {c'}, c' ≠ c → (st.storeConn p c).conns c' = st.conns c' :=
    fun hne => Function.update_of_ne hne _ _
  have hconn : ∀ q c', ((st.storeConn p c).pgs q).conn = some c' ↔
      (q = p ∧ c' = c) ∨ (st.pgs q).conn = some c' := by
    intro q c'
    by_cases hq : q = p
    · subst hq
      rw [show (st.storeConn q c).pgs q = { st.pgs q with conn := some c } from
        Function.update_self _ _ _, hp]
      simp [eq_comm]
    · rw [show (st.storeConn p c).pgs q = st.pgs q from Function.update_of_ne hq _ _]
      simp [hq]
  have hasync : ∀ q, (st.pgs q).async = true → ((st.storeConn p c).pgs q).async = true := by
    intro q hq
    by_cases hqp : q = p
    · subst hqp
      rw [show (st.storeConn q c).pgs q = { st.pgs q with conn := some c } from
        Function.update_self _ _ _]
      exact hq
    · rw [show (st.storeConn p c).pgs q = st.pgs q from Function.update_of_ne hqp _ _]
      exact hq
  have hfree : ∀ c', c' ∈ (st.storeConn p c).free ↔ c' ≠ c ∧ c' ∈ st.free :=
    fun c' => h.free_nodup.mem_erase_iff
  exact {
    free_live := by
      intro c' hc'
      obtain ⟨hne, hc'⟩ := (hfree c').1 hc'
      rw [hother hne]; exact h.free_live c' hc'
    free_nodup := h.free_nodup.erase c
    free_unowned := by
      intro c' hc' q hq
      obtain ⟨hne, hc'⟩ := (hfree c').1 hc'
      rcases (hconn q c').1 hq with ⟨-, he⟩ | hq
      · exact hne he
      · exact h.free_unowned c' hc' q hq
    owned_live := by
      intro q c' hq
      rcases (hconn q c').1 hq with ⟨-, rfl⟩ | hq
      · exact ⟨_, hself, rfl⟩
      · have hne : c' ≠ c := fun he => h.free_unowned c hcf q (he ▸ hq)
        rw [hother hne]; exact h.owned_live q c' hq
    owned_inj := by
      intro q r c' hq hr
      rcases (hconn q c').1 hq with ⟨hqp, hqc⟩ | hq' <;>
        rcases (hconn r c').1 hr with ⟨hrp, hrc⟩ | hr'
      · exact hqp.trans hrp.symm
      · exact absurd (hqc ▸ hr') (h.free_unowned c hcf r)
      · exact absurd (hrc ▸ hq') (h.free_unowned c hcf q)
      · exact h.owned_inj q r c' hq' hr'
    held := by
      intro c' k hk
      by_cases hne : c' = c
      · exact .inr ⟨p, (hconn p c').2 (.inl ⟨rfl, hne⟩)⟩
      · rw [hother hne] at hk
        rcases h.held c' k hk with h1 | ⟨q, hq⟩
        · exact .inl ((hfree c').2 ⟨hne, h1⟩)
        · exact .inr ⟨q, (hconn q c').2 (.inr hq)⟩
    job := by
      intro c' k q hk hj
      by_cases hne : c' = c
      · subst hne
        cases hself.symm.trans hk
        dsimp only at hj
        rw [hkj] at hj
        split at hj
        · cases hj; exact (hconn _ _).2 (.inl ⟨rfl, rfl⟩)
        · cases hj
      · rw [hother hne] at hk
        exact (hconn q c').2 (.inr (h.job c' k q hk hj))
    lt := by
      intro c' k hk
      by_cases hne : c' = c
      · rw [hne]; exact h.lt c k₀ hk₀
      · rw [hother hne] at hk; exact h.lt c' k hk
    destroyed := by
      intro c' hc'
      obtain ⟨h1, h2⟩ := h.destroyed c' hc'
      have hne : c' ≠ c := fun he => by rw [he, hk₀] at h1; cases h1
      exact ⟨(hother hne).trans h1, h2⟩
    destroyed_nodup := h.destroyed_nodup
    waiting := fun e he => hasync _ (h.waiting e he)
    above := h.above.mono hasync
    rolled_job := by
      intro c' q k hc' hq hk
      rcases (hconn q c').1 hq with ⟨rfl, rfl⟩ | hq
      · cases hself.symm.trans hk
        rw [hu ⟨_, hc'⟩]; rfl
      · have hne : c' ≠ c := fun he => h.free_unowned c hcf q (he ▸ hq)
        rw [hother hne] at hk
        exact h.rolled_job c' q k hc' hq hk }

/-- A new connection is free. -/
theorem Own.create (h : Own st) (w : Nat) (db : String) : Own (st.connCreate w db) := by
  have hself := St.connCreate_conns_self w st db
  have hother : ∀ {c}, c ≠ st.fresh → (st.connCreate w db).conns c = st.conns c :=
    fun hne => St.connCreate_conns_of_ne w st db hne
  -- nothing has used the number yet
  have hnew : st.conns st.fresh = none := by
    cases hk : st.conns st.fresh with
    | none => rfl
    | some k => exact absurd (h.lt _ k hk) (Nat.lt_irrefl _)
  have hne : ∀ {c k}, st.conns c = some k → c ≠ st.fresh :=
    fun hk he => by rw [he, hnew] at hk; cases hk
  have hmem : ∀ {c}, c ∈ (st.connCreate w db).free ↔ c ∈ st.free ∨ c = st.fresh := by
    intro c
    exact List.mem_append.trans (or_congr_right List.mem_singleton)
  have hfree : st.fresh ∉ st.free := by
    intro hm
    obtain ⟨k, hk, -⟩ := h.free_live _ hm
    exact hne hk rfl
  have hnone : ∀ q, (st.pgs q).conn ≠ some st.fresh := by
    intro q hq
    obtain ⟨k, hk, -⟩ := h.owned_live q _ hq
    exact hne hk rfl
  exact {
    free_live := by
      intro c hc
      rcases hmem.1 hc with hc | rfl
      · obtain ⟨k, hk, hkf⟩ := h.free_live c hc
        exact ⟨k, (hother (hne hk)).trans hk, hkf⟩
      · exact ⟨_, hself, rfl, rfl⟩
    free_nodup := List.nodup_append.2 ⟨h.free_nodup, List.nodup_singleton _, fun a ha b hb he =>
      hfree (List.mem_singleton.1 hb ▸ he ▸ ha)⟩
    free_unowned := by
      intro c hc q hq
      rcases hmem.1 hc with hc | rfl
      · exact h.free_unowned c hc q hq
      · exact hnone q hq
    owned_live := by
      intro q c hq
      obtain ⟨k, hk, hkf⟩ := h.owned_live q c hq
      exact ⟨k, (hother (hne hk)).trans hk, hkf⟩
    owned_inj := h.owned_inj
    held := by
      intro c k hk
      by_cases hc : c = st.fresh
      · exact .inl (hmem.2 (.inr hc))
      · rw [hother hc] at hk
        exact (h.held c k hk).imp_left fun hf => hmem.2 (.inl hf)
    job := by
      intro c k q hk hj
      by_cases hc : c = st.fresh
      · subst hc
        cases hself.symm.trans hk
        cases hj
      · rw [hother hc] at hk
        exact h.job c k q hk hj
    lt := by
      intro c k hk
      by_cases hc : c = st.fresh
      · rw [hc]; exact Nat.lt_succ_self _
      · rw [hother hc] at hk
        exact Nat.lt_succ_of_lt (h.lt c k hk)
    destroyed := by
      intro c hc
      obtain ⟨h1, h2⟩ := h.destroyed c hc
      exact ⟨(hother (Nat.ne_of_lt h2)).trans h1, Nat.lt_succ_of_lt h2⟩
    destroyed_nodup := h.destroyed_nodup
    waiting := h.waiting
    above := h.above
    rolled_job := by
      intro c q k hc hq hk
      have hcf : c ≠ st.fresh := fun he => hnone q (he ▸ hq)
      rw [hother hcf] at hk
      exact h.rolled_job c q k hc hq hk }

/-- A live connection is destroyed, and no `kore_pgsql` is left with it. -/
theorem Own.of_destroy (h : Own st) {c : Nat} {k : Conn} (hk : st.conns c = some k)
    (hconns : st'.conns = Function.update st.conns c none) (hfree : st'.free = st.free.erase c)
    (hconn : ∀ q c', (st'.pgs q).conn = some c' ↔ (st.pgs q).conn = some c' ∧ c' ≠ c)
    (hasync : ∀ q, (st'.pgs q).async = (st.pgs q).async) (hfresh : st'.fresh = st.fresh)
    (hd : st'.destroyed = c :: st.destroyed) (hw : st'.waitq = st.waitq)
    (hs : st'.stack = st.stack) : Own st' := by
  have hself : st'.conns c = none := by rw [hconns]; exact Function.update_self _ _ _
  have hother : ∀ {c'}, c' ≠ c → st'.conns c' = st.conns c' := by
    intro c' hne
    rw [hconns]; exact Function.update_of_ne hne _ _
  have hlive : ∀ {c' k'}, st'.conns c' = some k' → c' ≠ c ∧ st.conns c' = some k' := by
    intro c' k' hk'
    have hne : c' ≠ c := fun he => by rw [he, hself] at hk'; cases hk'
    exact ⟨hne, (hother hne).symm.trans hk'⟩
  have hmem : ∀ c', c' ∈ st'.free ↔ c' ≠ c ∧ c' ∈ st.free := by
    intro c'
    rw [hfree]; exact h.free_nodup.mem_erase_iff
  exact {
    free_live := by
      intro c' hc'
      obtain ⟨hne, hc'⟩ := (hmem c').1 hc'
      rw [hother hne]; exact h.free_live c' hc'
    free_nodup := by
      rw [hfree]
      exact h.free_nodup.erase c
    free_unowned := by
      intro c' hc' q hq
      exact h.free_unowned c' ((hmem c').1 hc').2 q ((hconn q c').1 hq).1
    owned_live := by
      intro q c' hq
      obtain ⟨hq, hne⟩ := (hconn q c').1 hq
      rw [hother hne]; exact h.owned_live q c' hq
    owned_inj := by
      intro q r c' hq hr
      exact h.owned_inj q r c' ((hconn q c').1 hq).1 ((hconn r c').1 hr).1
    held := by
      intro c' k' hk'
      obtain ⟨hne, hk'⟩ := hlive hk'
      rcases h.held c' k' hk' with hf | ⟨q, hq⟩
      · exact .inl ((hmem c').2 ⟨hne, hf⟩)
      · exact .inr ⟨q, (hconn q c').2 ⟨hq, hne⟩⟩
    job := by
      intro c' k' q hk' hj
      obtain ⟨hne, hk'⟩ := hlive hk'
      exact (hconn q c').2 ⟨h.job c' k' q hk' hj, hne⟩
    lt := by
      intro c' k' hk'
      rw [hfresh]; exact h.lt c' k' (hlive hk').2
    destroyed := by
      rw [hd, hfresh]
      intro c' hc'
      rcases List.mem_cons.1 hc' with rfl | hc'
      · exact ⟨hself, h.lt c' k hk⟩
      · obtain ⟨h1, h2⟩ := h.destroyed c' hc'
        have hne : c' ≠ c := fun he => by rw [he, hk] at h1; cases h1
        exact ⟨(hother hne).trans h1, h2⟩
    destroyed_nodup := by
      rw [hd]
      refine List.nodup_cons.2 ⟨fun hc => ?_, h.destroyed_nodup⟩
      have := (h.destroyed c hc).1
      rw [hk] at this; cases this
    waiting := by
      rw [hw]
      intro e he
      rw [hasync]; exact h.waiting e he
    above := by
      rw [hs]
      exact h.above.mono fun q hq => (hasync q).trans hq
    rolled_job := by
      rw [hs]
      intro c' q k' hc' hq hk'
      exact h.rolled_job c' q k' hc' ((hconn q c').1 hq).1 (hlive hk').2 }

/-- `pgsql_conn_cleanup` of a live connection that is free or has a job. -/
theorem Own.connCleanup (h : Own st) (w : Nat) {c : Nat} {k : Conn} (hk : st.conns c = some k)
    (hc : k.free = true ∨ k.job ≠ none) : Own (st.connCleanup w c) := by
  by_cases hf : k.free = true
  · -- a free connection has no owner and no job
    have hcf : c ∈ st.free := by
      refine (h.held c k hk).resolve_right ?_
      rintro ⟨p, hp⟩
      obtain ⟨k', hk', hkf⟩ := h.owned_live p c hp
      cases hk.symm.trans hk'
      rw [hf] at hkf; cases hkf
    obtain ⟨k', hk', -, hj⟩ := h.free_live c hcf
    cases hk.symm.trans hk'
    refine h.of_destroy hk ?_ ?_ (fun q c' => ?_) (fun q => ?_) ?_ ?_ ?_ ?_ <;>
      simp only [St.connCleanup, hk, hf, hj, if_true, St.setConn]
    exact ⟨fun hq => ⟨hq, fun he => h.free_unowned c hcf q (he ▸ hq)⟩, And.left⟩
  · obtain ⟨p, hj⟩ := Option.ne_none_iff_exists'.1 (hc.resolve_left hf)
    have hpc := h.job c k p hk hj
    have hcf : c ∉ st.free := fun hm => h.free_unowned c hm p hpc
    have hpgs : (st.connCleanup w c).pgs = Function.update st.pgs p
        { st.pgs p with conn := none, error := some "PQerrorMessage", state := .error } := by
      simp [St.connCleanup, hk, hf, hj, St.setConn, St.setError, St.setPg]
    refine h.of_destroy hk ?_ ?_ (fun q c' => ?_) (fun q => ?_) ?_ ?_ ?_ ?_
    · simp [St.connCleanup, hk, hf, hj, St.setConn, St.setError, St.setPg]
    · rw [List.erase_of_not_mem hcf]
      simp [St.connCleanup, hk, hf, hj, St.setConn, St.setError, St.setPg]
    · rw [hpgs]
      by_cases hq : q = p
      · subst hq
        rw [Function.update_self, hpc]
        exact ⟨fun he => absurd he (by simp),
          fun he => absurd (Option.some.inj he.1).symm he.2⟩
      · rw [Function.update_of_ne hq]
        exact ⟨fun he => ⟨he, fun hcc => hq (h.owned_inj q p c (hcc ▸ he) hpc)⟩, And.left⟩
    · rw [hpgs]
      by_cases hq : q = p
      · subst hq; rw [Function.update_self]
      · rw [Function.update_of_ne hq]
    all_goals simp [St.connCleanup, hk, hf, hj, St.setConn, St.setError, St.setPg]

/-! ## The steps -/

/-- Writing a `kore_pgsql` without touching its connection. -/
theorem Own.setPg (h : Own st) {p : Nat} {v : Pg} (hv : v.conn = (st.pgs p).conn)
    (ha : (st.pgs p).async = true → v.async = true) : Own (st.setPg p v) := by
  have hasync : ∀ q, (st.pgs q).async = true → ((st.setPg p v).pgs q).async = true := by
    intro q hq
    by_cases hqp : q = p
    · subst hqp; rw [St.setPg_pgs_self]; exact ha hq
    · rw [St.setPg_pgs_of_ne st v hqp]; exact hq
  refine h.of_quiet rfl rfl (.refl _) (fun _ => rfl) (fun q => ?_)
    (fun e he => hasync _ (h.waiting e he)) (h.above.mono hasync) fun c hc => .inl hc
  by_cases hqp : q = p
  · subst hqp; rw [St.setPg_pgs_self]; exact hv
  · rw [St.setPg_pgs_of_ne st v hqp]

/-- Changing the queue, without new waiters, and the stack. -/
theorem Own.frames (h : Own st) {q : List (Nat × Nat)} {n : UInt32} {fs : List Frame}
    (hq : q ⊆ st.waitq) (hs : AsyncAbove st.pgs fs)
    (hr : ∀ c, .rolled c true ∈ fs → .rolled c true ∈ st.stack) :
    Own { st with waitq := q, queueCount := n, stack := fs } :=
  h.of_quiet rfl rfl (.refl _) (fun _ => rfl) (fun _ => rfl)
    (fun e he => h.waiting e (hq he)) hs fun c hc => .inl (hr c hc)

/-- The frame on top is taken off. -/
theorem Own.pop (h : Own st) {f : Frame} {rest : List Frame} (hs : st.stack = f :: rest) :
    Own { st with stack := rest } := by
  have := h.above
  rw [hs] at this
  refine h.frames (fun _ he => he) this.2 fun c hc => ?_
  rw [hs]; exact .tail _ hc

/-- A frame is left that is not that of a failed `ROLLBACK`. -/
theorem Own.push (h : Own st) {f : Frame} (hf : ∀ c, f ≠ .rolled c true)
    (hu : UnderRollback st.stack → f.AsyncOwner st.pgs) : Own (st.push f) := by
  refine h.frames (fun _ he => he) ⟨hu, h.above⟩ fun c hc => ?_
  exact (List.mem_cons.1 hc).resolve_left fun he => hf c he.symm

/-- A callback is called, of an asynchronous query if a `ROLLBACK` waits below. -/
theorem Own.callCb (h : Own st) {p : Nat} (hu : UnderRollback st.stack → (st.pgs p).async = true) :
    Own (st.callCb p) := by
  rw [St.callCb]
  split
  · exact h.push (fun c hc => by cases hc) hu
  · exact h

/-- Who is woken owns nothing yet. -/
theorem Own.queueWakeup (h : Own st) : Own st.queueWakeup := by
  obtain ⟨q, n, fs, he, hq, hfs⟩ := st.queueWakeup_eq
  rw [he]
  rcases hfs with rfl | ⟨t, p, hp, rfl⟩
  · exact h.frames hq h.above fun c hc => hc
  · refine h.frames hq ⟨fun _ => h.waiting _ hp, fun _ => trivial, h.above⟩ fun c hc => ?_
    simpa using hc

/-- Somebody leaves the queue. -/
theorem Own.queueRemove (h : Own st) (p : Nat) : Own (st.queueRemove p) := by
  rw [St.queueRemove]
  split
  · exact h.frames List.eraseP_sublist.subset h.above fun c hc => hc
  · exact h

/-- A connection is released, and it is free. -/
theorem Own.connRelease (h : Own st) {p : Nat}
    (hu : UnderRollback st.stack → (st.pgs p).async = true) : Own (st.connRelease p) := by
  cases hpc : (st.pgs p).conn with
  | none => rw [St.connRelease, hpc]; exact h
  | some c =>
      rw [st.connRelease_some hpc]
      have := h.release hpc (f := fun k => { k with
          job := none, free := true
          watched := k.watched && !((st.pgs p).async && (st.pgs p).scheduled) })
        (v := { st.pgs p with conn := none, state := .complete }) (fun _ => ⟨rfl, rfl⟩) rfl rfl
        ((if (st.pgs p).bound = .callback then [.user p] else []) ++ [.releaseTail])
        (fun c hc => by split at hc <;> simp at hc) (fun hr g hg => ?_)
      · simpa only [List.append_assoc, List.singleton_append] using this
      · rcases List.mem_append.1 hg with hg | hg
        · split at hg
          · obtain rfl := List.mem_singleton.1 hg
            exact hu hr
          · cases hg
        · obtain rfl := List.mem_singleton.1 hg
          trivial

/-- Under a failed `ROLLBACK` only an asynchronous `kore_pgsql` may call. -/
theorem Own.mayCall_async (h : Own st) {p : Nat} (hp : st.mayCall p = true) :
    UnderRollback st.stack → (st.pgs p).async = true := by
  intro ⟨c, hc⟩
  have ha := h.above
  rw [St.mayCall] at hp
  split at hp
  · next hs => rw [hs] at hc; cases hc
  · next q rest hs =>
      obtain rfl := eq_of_beq hp
      rw [hs] at hc ha
      exact ha.1 ⟨c, (List.mem_cons.1 hc).resolve_left fun he => by cases he⟩
  · cases hp

/-- `kore_pgsql_setup` up to `pgsql_conn_next`. -/
theorem Own.setup (h : Own st) {p : Nat} (hp : st.mayCall p = true) (db : String)
    (async sync : Bool) : Own (setup st p db async sync) := by
  rw [Pool.setup]
  split
  · exact h.setPg rfl id
  split
  · exact h.setPg rfl id
  have h1 : Own (st.setPg p { st.pgs p with
      async := (st.pgs p).async || async, sync := (st.pgs p).sync || sync }) :=
    h.setPg rfl fun ha => by simp [ha]
  dsimp only
  split
  · refine h1.push (fun c hc => by cases hc) fun hu => ?_
    rw [Frame.AsyncOwner, St.setPg_pgs_self]
    simp [h.mayCall_async hp hu]
  · exact h1.setPg rfl id

/-- `kore_pgsql_query` moves no connection. -/
theorem Own.query (h : Own st) {p : Nat} (hp : st.mayCall p = true) (ok : Bool) :
    Own (query st p ok) := by
  rw [Pool.query]
  cases hpc : (st.pgs p).conn with
  | none => exact h.setPg rfl id
  | some c =>
      dsimp only
      split
      · exact h.setPg rfl id
      split
      · exact h.setPg rfl id
      · have h1 : Own (st.setConn c ((st.conns c).map fun k => { k with watched := true })) := by
          refine h.of_quiet rfl rfl (.refl _) (fun c' => ?_) (fun _ => rfl) h.waiting h.above
            fun c hc => .inl hc
          by_cases hc : c' = c
          · subst hc
            rw [St.setConn_conns_self, Option.map_map]; rfl
          · rw [St.setConn_conns_of_ne st _ hc]
        refine Own.callCb (h1.setPg ?_ ?_) fun hu => ?_
        · rfl
        · exact id
        rw [St.setPg_pgs_self]
        exact h.mayCall_async hp hu

/-- `kore_pgsql_continue`, in each state. -/
theorem Own.korePgsqlContinue (h : Own st) {p : Nat} (hp : st.mayCall p = true)
    (hs : korePgsqlContinue st p = some st') : Own st' := by
  have h1 : Own (st.setPg p { st.pgs p with error := none }) := h.setPg rfl id
  have hu : UnderRollback st.stack →
      ((st.setPg p { st.pgs p with error := none }).pgs p).async = true := by
    intro hr
    rw [St.setPg_pgs_self]; exact h.mayCall_async hp hr
  rw [Pool.korePgsqlContinue] at hs
  dsimp only at hs
  split at hs
  case h_1 | h_2 => cases hs; exact h1
  case h_3 => cases hs; exact h1.connRelease hu
  case h_8 => cases hs
  all_goals
    obtain ⟨q, hq, rfl⟩ := Option.map_eq_some_iff.1 hs
    obtain ⟨c, hpc, hq⟩ := Option.bind_eq_some_iff.1 hq
    obtain ⟨k, hk, hj⟩ := Option.bind_eq_some_iff.1 hq
    -- the owner of the connection's job is the caller
    obtain rfl := h1.owned_inj q p c (h1.job c k q hk hj) hpc
    exact h1.push (fun c hc => by cases hc) hu

/-- `kore_pgsql_cleanup` up to the return of `pgsql_conn_release`. -/
theorem Own.korePgsqlCleanup (h : Own st) {p : Nat} (hp : st.mayCall p = true) :
    Own (korePgsqlCleanup st p) := by
  have hu := h.mayCall_async hp
  have hst : (st.queueRemove p).stack = st.stack ∧ (st.queueRemove p).pgs = st.pgs := by
    rw [St.queueRemove]; split <;> exact ⟨rfl, rfl⟩
  refine ((h.queueRemove p).push (fun c hc => by cases hc) fun hr => ?_).connRelease fun hr => ?_
  · rw [hst.1] at hr
    exact (congrArg (fun pgs : Nat → Pg => (pgs p).async = true) hst.2).mpr (hu hr)
  · obtain ⟨c, hc⟩ := hr
    have hc : .rolled c true ∈ (st.queueRemove p).stack :=
      (List.mem_cons.1 hc).resolve_left fun he => by cases he
    rw [hst.1] at hc
    exact (congrArg (fun pgs : Nat → Pg => (pgs p).async = true) hst.2).mpr (hu ⟨c, hc⟩)

/-- A pass of `pgsql_conn_next`, on the stack without its frame. -/
theorem Own.scan (h : Own st) {w p : Nat} {db : String} {o : Scan}
    (hu : UnderRollback st.stack → (st.pgs p).async = true)
    (hp : Stores st db o → (st.pgs p).conn = none) (hs : scan w st p db o = some st') :
    Own st' := by
  rw [Pool.scan] at hs
  cases hf : st.free.find? (fun c => (st.conns c).any (·.name == db)) with
  | some c =>
      have hcf : c ∈ st.free := List.mem_of_find?_eq_some hf
      simp only [hf] at hs
      cases ho : o.inError with
      | false =>
          rw [ho] at hs
          cases hs
          exact h.store (hp (.inl ho)) hcf hu
      | true =>
          rw [ho] at hs
          cases hs
          refine Own.queueWakeup (h.of_quiet rfl rfl ?_ (fun c' => ?_) (fun _ => rfl) h.waiting
            ⟨fun _ => trivial, hu, h.above⟩ fun c' hc' => ?_)
          · exact (List.perm_append_comm.trans (List.perm_cons_erase hcf).symm)
          · obtain ⟨k, hk, h1, h2⟩ := h.free_live c hcf
            by_cases hc : c' = c
            · subst hc
              simp only [St.push, St.setConn, Function.update_self, hk]
              simp [h1, h2]
            · simp only [St.push, St.setConn, Function.update_of_ne hc]
          · simp only [St.push, St.setConn, List.mem_cons, Frame.rolled.injEq] at hc'
            rcases hc' with ⟨rfl, -⟩ | hc' | hc'
            · exact .inr hcf
            · cases hc'
            · exact .inl hc'
  | none =>
      have hpn := hp (.inr hf)
      simp only [hf] at hs
      split at hs
      · cases hs
      split at hs
      · -- no room: the caller waits, or gets an error
        cases hs
        split
        · next hq =>
            have h1 : Own (st.queueAdd p) := by
              refine h.of_quiet rfl rfl (.refl _) (fun _ => rfl) (fun _ => rfl) (fun e he => ?_)
                h.above fun c hc => .inl hc
              rcases List.mem_append.1 he with he | he
              · exact h.waiting e he
              · obtain rfl := List.mem_singleton.1 he
                exact hq.1
            exact h1.setPg hpn.symm id
        · have h1 : Own (st.setError p "no available connection") := h.setPg rfl id
          refine h1.setPg ?_ id
          rw [St.setError, St.setPg_pgs_self]; exact hpn.symm
      · have h1 := h.create w db
        have hmem : st.fresh ∈ (st.connCreate w db).free :=
          List.mem_append_right _ (.head _)
        split at hs
        · cases hs
          exact h1.store hpn hmem hu
        · cases hs
          have h2 : Own ((st.connCreate w db).setError p "PQerrorMessage") := h1.setPg rfl id
          have h3 := h2.connCleanup w (c := st.fresh) (St.connCreate_conns_self w st db) (.inl rfl)
          refine h3.setPg ?_ id
          have hk : ((st.connCreate w db).setError p "PQerrorMessage").conns st.fresh =
              some { name := db } := St.connCreate_conns_self w st db
          simp only [St.connCleanup, hk, if_true]
          refine hpn.symm.trans ?_
          simp [St.setError, St.setPg, St.setConn, St.connCreate]

/-- The code after a frame, on the stack without it. -/
theorem Own.resume (h : Own st) {w : Nat} {f : Frame}
    (hu : UnderRollback st.stack → f.AsyncOwner st.pgs)
    (hp : ∀ p, f = .cleanupTail p → (st.pgs p).conn = none)
    (hr : ∀ c, f = .rolled c true → ∃ k, st.conns c = some k ∧ (k.free = true ∨ k.job ≠ none))
    (hs : resume w st f = some st') : Own st' := by
  cases f with
  | user | handle => cases hs; exact h
  | next => cases hs
  | rolled c failed =>
      cases hs
      cases failed with
      | false => exact h
      | true =>
          obtain ⟨k, hk, hc⟩ := hr c rfl
          exact h.connCleanup w hk hc
  | releaseTail => cases hs; exact h.queueWakeup
  | wakeTail t =>
      cases hs
      exact h.frames List.filter_sublist.subset h.above fun c hc => hc
  | cleanupTail p => cases hs; exact h.setPg (hp p rfl).symm id

/-- The step lemma: a step that is no misstep keeps the owners. -/
theorem Own.step {w : Nat} {e : Ev} (h : Own st) (hm : ¬ Misstep st e)
    (hs : step w st e = some st') : Own st' := by
  cases e with
  | register name connMax =>
      simp only [Pool.step] at hs
      split at hs
      · split at hs <;> cases hs
        · exact h
        · exact h.of_quiet rfl rfl (.refl _) (fun _ => rfl) (fun _ => rfl) h.waiting h.above
            fun c hc => .inl hc
      · cases hs
  | deleteRequest p =>
      simp only [Pool.step] at hs
      split at hs <;> cases hs
      exact h.setPg rfl id
  | setup p db async sync =>
      simp only [Pool.step] at hs
      split at hs <;> cases hs
      exact h.setup ‹_› db async sync
  | scan o =>
      simp only [Pool.step] at hs
      split at hs
      · next p db rest hst =>
          have ha := h.above
          rw [hst] at ha
          refine (h.pop hst).scan ha.1 (fun hstores => ?_) hs
          by_contra hne
          exact hm ⟨p, db, rest, hst, hstores, hne⟩
      · cases hs
  | query p ok =>
      simp only [Pool.step] at hs
      split at hs <;> cases hs
      exact h.query ‹_› ok
  | «continue» p =>
      simp only [Pool.step] at hs
      split at hs
      · exact h.korePgsqlContinue ‹_› hs
      · cases hs
  | cleanup p =>
      simp only [Pool.step] at hs
      split at hs <;> cases hs
      exact h.korePgsqlCleanup ‹_›
  | ready c =>
      simp only [Pool.step] at hs
      split at hs
      · next hst =>
          obtain ⟨k, -, hs⟩ := Option.bind_eq_some_iff.1 hs
          split at hs
          · obtain ⟨p, -, rfl⟩ := Option.map_eq_some_iff.1 hs
            refine h.push (fun c hc => by cases hc) ?_
            rintro ⟨c, hc⟩
            rw [hst] at hc; cases hc
          · cases hs
      · cases hs
  | error c =>
      simp only [Pool.step] at hs
      split at hs <;> cases hs
      next hc =>
        obtain ⟨k, hk, -⟩ := (Option.any_eq_true _ _).1 hc.2
        refine h.connCleanup w hk ?_
        by_contra hn
        rw [not_or, not_not, Bool.not_eq_true] at hn
        exact hm ⟨k, hk, hn.2, hn.1⟩
  | report s =>
      simp only [Pool.step] at hs
      split at hs <;> cases hs
      next p rest hst =>
        refine Own.callCb (h.setPg ?_ ?_) fun hu => ?_
        · rfl
        · exact id
        obtain ⟨c, hc⟩ := hu
        have ha := h.above
        rw [St.setPg_pgs_self]
        change .rolled c true ∈ st.stack at hc
        rw [hst] at hc ha
        exact ha.1 ⟨c, (List.mem_cons.1 hc).resolve_left fun he => by cases he⟩
  | ret =>
      simp only [Pool.step] at hs
      split at hs
      · cases hs
      · next f rest hst =>
          have ha := h.above
          rw [hst] at ha
          refine (h.pop hst).resume ha.1 (fun p hf => ?_) (fun c hf => ?_) hs
          · subst hf
            by_contra hne
            exact hm (.inl ⟨p, rest, hst, hne⟩)
          · subst hf
            cases hk : st.conns c with
            | none => exact absurd (.inr ⟨c, rest, hst, hk⟩) hm
            | some k =>
                refine ⟨k, rfl, ?_⟩
                rcases h.held c k hk with hcf | ⟨p, hp⟩
                · obtain ⟨k', hk', hfr, -⟩ := h.free_live c hcf
                  cases hk.symm.trans hk'
                  exact .inl hfr
                · have hj := h.rolled_job c p k (by rw [hst]; exact .head _) hp hk
                  exact .inr (by rw [hj]; simp)

end

/-- **Connection ownership.** In every run without a misstep, each live connection is free, or is
the connection of exactly one `kore_pgsql`, in every state reached, and no connection is destroyed
twice. -/
theorem connections_owned_without_missteps (w : Nat) {st₀ : St} {evs : List Ev} (h0 : IsInit st₀)
    (hm : Meets (step w) (fun st e => ¬ Misstep st e) st₀ evs) :
    Always (step w) (fun st => Owned st ∧ st.destroyed.Nodup) st₀ evs := by
  intro pre st hpre hrun
  obtain ⟨post, rfl⟩ := hpre
  have h := exec_inv_of_meets (fun _ _ _ ho hc hs => Own.step ho hc hs) hm.of_append hrun h0.own
  exact ⟨h.owned, h.destroyed_nodup⟩

/-- A connection is opened, given back, and taken again once `kore_pgsql_cleanup` is over. -/
def openTwice : List Ev :=
  [.register "db" 2, .setup 0 "db" true false, .scan {}, .cleanup 0, .ret, .ret, .ret,
    .setup 0 "db" true false, .scan {}]

/-- Two connections are opened and both are owned. -/
theorem connections_owned_without_missteps_openTwice :
    ∃ st, exec (step 16) callbackPool openTwice = some st ∧ st.conns 0 ≠ none ∧ st.free = [] ∧
      Owned st ∧ st.destroyed.Nodup := by
  refine ⟨_, rfl, by decide, rfl, ?_⟩
  refine @connections_owned_without_missteps 16 callbackPool openTwice
    ⟨rfl, fun _ => rfl, rfl, rfl, fun _ => rfl, rfl, rfl, rfl⟩ ?_ _ _ List.prefix_rfl rfl
  refine .cons id rfl (.cons id rfl (.cons ?_ rfl (.cons id rfl (.cons ?_ rfl (.cons ?_ rfl
    (.cons ?_ rfl (.cons id rfl (.cons ?_ rfl trivial))))))))
  · rintro ⟨p, db, rest, h, -, hc⟩
    cases h; exact hc rfl
  · rintro (⟨p, rest, h, -⟩ | ⟨c, rest, h, -⟩) <;> cases h
  · rintro (⟨p, rest, h, -⟩ | ⟨c, rest, h, -⟩) <;> cases h
  · rintro (⟨p, rest, h, hc⟩ | ⟨c, rest, h, -⟩) <;> cases h
    exact hc rfl
  · rintro ⟨p, db, rest, h, -, hc⟩
    cases h; exact hc rfl

/-- The callback that `kore_pgsql_cleanup` calls sets its `kore_pgsql` up again:
`kore_pgsql_cleanup` then forgets the new connection, and nobody has it. -/
theorem setup_in_cleanup_loses_connection :
    ¬ ∀ (w : Nat) (st₀ st : St) (evs : List Ev), IsInit st₀ → exec (step w) st₀ evs = some st →
      st.stack = [] → Owned st ∧ st.destroyed.Nodup := by
  intro h
  have := (h 16 callbackPool _ [.register "db" 2, .setup 0 "db" true false, .scan {}, .cleanup 0,
    .setup 0 "db" true false, .scan {}, .ret, .ret, .ret]
    ⟨rfl, fun _ => rfl, rfl, rfl, fun _ => rfl, rfl, rfl, rfl⟩ rfl rfl).1 0 _ rfl
  rcases this with ⟨h1, -⟩ | ⟨-, p, hp, -⟩
  · exact absurd h1 (by decide)
  · cases p with
    | zero => cases hp
    | succ p => cases hp

end KoreWebsocket.Pgsql.Pool
