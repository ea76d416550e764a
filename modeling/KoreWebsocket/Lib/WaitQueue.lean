import KoreWebsocket.Lib.Machine

/-!
# Wait queues

Waiters are queued at the end and numbered in the order in which they come. The first of them is woken,
and stays in the queue until the wake-up is over; meanwhile others may be queued, but nobody leaves.
Otherwise a waiter may give up, from any place in the queue, and the first may be dropped. `Ordered` is
the invariant: who has left has left once, and who has been woken was woken after everybody before him,
apart from those who gave up or were dropped.
-/

universe u

/-- A waiter with his number. -/
abbrev Ticket (α : Type u) := Nat × α

/-- A queue of waiters, with a counter of its length. `tickets` is the next number, `waking` the numbers
of the waiters whose wake-up is not over. -/
structure WaitQueue (α : Type u) where
  entries : List (Ticket α) := []
  tickets : Nat := 0
  count : UInt32 := 0
  waking : List Nat := []

namespace WaitQueue

variable {α : Type u}

/-- What happens to the queue. -/
inductive Act (α : Type u)
  | add (entry : Ticket α)
  | wake (entry : Ticket α)
  | giveUp (entry : Ticket α)
  | drop (entry : Ticket α)
  | unlink (number : Nat)

/-- The waiter who is queued. -/
def Act.added : Act α → Option (Ticket α)
  | .add entry => some entry
  | _ => none

def Act.woken : Act α → Option Nat
  | .wake entry => some entry.1
  | _ => none

def Act.gaveUp : Act α → Option Nat
  | .giveUp entry => some entry.1
  | _ => none

def Act.dropped : Act α → Option Nat
  | .drop entry => some entry.1
  | _ => none

/-- The number of the waiter who leaves. -/
def Act.removed : Act α → Option Nat
  | .giveUp entry | .drop entry => some entry.1
  | .unlink number => some number
  | _ => none

/-- Who was queued. -/
def queued (acts : List (Act α)) : List (Ticket α) := acts.filterMap Act.added

/-- The numbers of those who were woken. -/
def woken (acts : List (Act α)) : List Nat := acts.filterMap Act.woken

/-- The numbers of those who gave up. -/
def gaveUp (acts : List (Act α)) : List Nat := acts.filterMap Act.gaveUp

/-- The numbers of those who were dropped. -/
def dropped (acts : List (Act α)) : List Nat := acts.filterMap Act.dropped

/-- The numbers of those who have left, as often as they have. -/
def removed (acts : List (Act α)) : List Nat := acts.filterMap Act.removed

/-- The queue without this waiter. -/
def remove (q : WaitQueue α) (number : Nat) : WaitQueue α :=
  { q with entries := q.entries.filter (·.1 ≠ number), count := q.count - 1 }

/-- One act. -/
def step [DecidableEq α] (q : WaitQueue α) : Act α → Option (WaitQueue α)
  | .add entry =>
      if entry.1 = q.tickets ∧ q.count.toNat + 1 < 2 ^ 32 then
        some { q with entries := q.entries ++ [entry], tickets := q.tickets + 1, count := q.count + 1 }
      else none
  | .wake entry =>
      if q.waking = [] ∧ q.entries.head? = some entry then some { q with waking := [entry.1] }
      else none
  | .giveUp entry => if q.waking = [] ∧ entry ∈ q.entries then some (q.remove entry.1) else none
  | .drop entry =>
      if q.waking = [] ∧ q.entries.head? = some entry then some (q.remove entry.1) else none
  | .unlink number =>
      if q.waking = [number] then some { q.remove number with waking := [] } else none

/-- The queue and the counter are what the acts so far have made of them. -/
structure Ordered (q : WaitQueue α) (acts : List (Act α)) : Prop where
  count_eq : q.count.toNat = q.entries.length
  numbers_eq : (queued acts).map Prod.fst = List.range q.tickets
  entries_eq : q.entries = (queued acts).filter (·.1 ∉ removed acts)
  removed_nodup : (removed acts).Nodup
  removed_lt : ∀ n ∈ removed acts, n < q.tickets
  removed_cases : ∀ n ∈ removed acts,
    n ∈ woken acts ∨ n ∈ gaveUp acts ∨ n ∈ dropped acts
  waking_cases : q.waking = [] ∨ ∃ entry ∈ q.entries, q.waking = [entry.1] ∧
    entry.1 ∈ woken acts
  woken_cases : ∀ n ∈ woken acts, n ∈ q.waking ∨ n ∈ removed acts
  woken_sorted : (woken acts).Pairwise (· < ·)
  woken_before : ∀ n ∈ woken acts, ∀ m < n,
    m ∈ woken acts ∨ m ∈ gaveUp acts ∨ m ∈ dropped acts

/-- A queue to which nobody has come is in order. -/
theorem ordered_initial : Ordered ({} : WaitQueue α) [] where
  count_eq := rfl
  numbers_eq := rfl
  entries_eq := rfl
  removed_nodup := List.nodup_nil
  removed_lt := by simp [removed]
  removed_cases := by simp [removed]
  waking_cases := .inl rfl
  woken_cases := by simp [woken]
  woken_sorted := .nil
  woken_before := by simp [woken]

/-! ## Each act keeps the queue in order -/

section
variable (acts : List (Act α)) (a : Act α)

theorem filterMap_concat {β : Type*} (f : Act α → Option β) :
    (acts ++ [a]).filterMap f = acts.filterMap f ++ (f a).toList := by
  rw [List.filterMap_append]
  cases h : f a with
  | none => rw [List.filterMap_cons_none h]; rfl
  | some b => rw [List.filterMap_cons_some h]; rfl

@[simp] theorem queued_concat : queued (acts ++ [a]) = queued acts ++ a.added.toList :=
  filterMap_concat acts a _

@[simp] theorem woken_concat : woken (acts ++ [a]) = woken acts ++ a.woken.toList :=
  filterMap_concat acts a _

@[simp] theorem gaveUp_concat : gaveUp (acts ++ [a]) = gaveUp acts ++ a.gaveUp.toList :=
  filterMap_concat acts a _

@[simp] theorem dropped_concat : dropped (acts ++ [a]) = dropped acts ++ a.dropped.toList :=
  filterMap_concat acts a _

@[simp] theorem removed_concat : removed (acts ++ [a]) = removed acts ++ a.removed.toList :=
  filterMap_concat acts a _

end

section
variable {q q' : WaitQueue α} {acts : List (Act α)} {entry : Ticket α}

/-- The waiters stand in the order of their numbers. -/
theorem Ordered.sorted (h : Ordered q acts) : (q.entries.map Prod.fst).Pairwise (· < ·) := by
  have hsub : (q.entries.map Prod.fst).Sublist (List.range q.tickets) := by
    rw [h.entries_eq, ← h.numbers_eq]
    exact List.filter_sublist.map _
  exact List.pairwise_lt_range.sublist hsub

/-- Who is in the queue has a number that was given, and has not left. -/
theorem Ordered.mem_entries (h : Ordered q acts) (hmem : entry ∈ q.entries) :
    entry.1 < q.tickets ∧ entry.1 ∉ removed acts := by
  rw [h.entries_eq, List.mem_filter, decide_eq_true_eq] at hmem
  have hnumber : entry.1 ∈ List.range q.tickets := by
    rw [← h.numbers_eq]
    exact List.mem_map_of_mem hmem.1
  exact ⟨List.mem_range.1 hnumber, hmem.2⟩

/-- Who has a number and has not left is in the queue. -/
theorem Ordered.exists_entry (h : Ordered q acts) {n : Nat} (hlt : n < q.tickets)
    (hstays : n ∉ removed acts) : ∃ entry ∈ q.entries, entry.1 = n := by
  have hnumber : n ∈ (queued acts).map Prod.fst := by
    rw [h.numbers_eq]
    exact List.mem_range.2 hlt
  obtain ⟨entry, hmem, rfl⟩ := List.mem_map.1 hnumber
  refine ⟨entry, ?_, rfl⟩
  rw [h.entries_eq, List.mem_filter, decide_eq_true_eq]
  exact ⟨hmem, hstays⟩

/-- Nobody before the first is in the queue. -/
theorem Ordered.head_le (h : Ordered q acts) (hhead : q.entries.head? = some entry)
    {other : Ticket α} (hmem : other ∈ q.entries) : entry.1 ≤ other.1 := by
  have hsorted := h.sorted
  cases hentries : q.entries with
  | nil =>
      rw [hentries] at hmem
      cases hmem
  | cons first rest =>
      rw [hentries] at hhead hmem hsorted
      obtain rfl := Option.some.inj hhead
      rw [List.map_cons, List.pairwise_cons] at hsorted
      rcases List.mem_cons.1 hmem with rfl | hrest
      · exact le_rfl
      · exact (hsorted.1 _ (List.mem_map_of_mem hrest)).le

/-- The queue without one of its waiters is one shorter. -/
theorem Ordered.length_remove (h : Ordered q acts) (hmem : entry ∈ q.entries) :
    (q.entries.filter (·.1 ≠ entry.1)).length + 1 = q.entries.length := by
  have hnodup : (q.entries.map Prod.fst).Nodup := h.sorted.imp Nat.ne_of_lt
  generalize q.entries = entries at hmem hnodup
  induction entries with
  | nil => cases hmem
  | cons first rest ih =>
      rw [List.map_cons, List.nodup_cons] at hnodup
      rcases List.mem_cons.1 hmem with rfl | hrest
      · have hall : ∀ other ∈ rest, other.1 ≠ entry.1 := fun other hother heq =>
          hnodup.1 (heq ▸ List.mem_map_of_mem hother)
        rw [List.filter_cons_of_neg (by simp), List.filter_eq_self.2 (by simpa using hall),
          List.length_cons]
      · have hne : first.1 ≠ entry.1 := fun heq => hnodup.1 (heq ▸ List.mem_map_of_mem hrest)
        rw [List.filter_cons_of_pos (by simpa using hne), List.length_cons, ih hrest hnodup.2,
          List.length_cons]

/-- A waiter who comes keeps the queue in order. -/
theorem Ordered.add (h : Ordered q acts) (hnumber : entry.1 = q.tickets)
    (hroom : q.count.toNat + 1 < 2 ^ 32) :
    Ordered { q with entries := q.entries ++ [entry], tickets := q.tickets + 1, count := q.count + 1 }
      (acts ++ [.add entry]) where
  count_eq := by
    rw [UInt32.toNat_add, UInt32.toNat_one, Nat.mod_eq_of_lt hroom, h.count_eq, List.length_append,
      List.length_singleton]
  numbers_eq := by
    rw [queued_concat, List.map_append, h.numbers_eq, List.range_succ, ← hnumber]
    rfl
  entries_eq := by
    have hnew : entry.1 ∉ removed acts := fun hmem =>
      absurd (h.removed_lt _ hmem) (by omega)
    have hremoved : removed (acts ++ [.add entry]) = removed acts := by
      rw [removed_concat]
      exact List.append_nil _
    rw [hremoved, queued_concat, List.filter_append, ← h.entries_eq]
    change _ = q.entries ++ [entry].filter (·.1 ∉ removed acts)
    rw [List.filter_cons_of_pos (by simpa using hnew)]
    rfl
  removed_nodup := by simpa [Act.removed] using h.removed_nodup
  removed_lt := by
    intro n hn
    exact Nat.lt_succ_of_lt (h.removed_lt n (by simpa [Act.removed] using hn))
  removed_cases := by
    simpa [Act.removed, Act.woken, Act.gaveUp, Act.dropped] using h.removed_cases
  waking_cases := by
    rcases h.waking_cases with hnone | ⟨other, hmem, hwaking, hwoken⟩
    · exact .inl hnone
    · exact .inr ⟨other, List.mem_append_left _ hmem, hwaking,
        by simpa [Act.woken] using hwoken⟩
  woken_cases := by simpa [Act.removed, Act.woken] using h.woken_cases
  woken_sorted := by simpa [Act.woken] using h.woken_sorted
  woken_before := by
    simpa [Act.woken, Act.gaveUp, Act.dropped] using h.woken_before

/-- Who has been woken, or has given up, or was dropped is not in the queue unless his wake-up is not
over. -/
theorem Ordered.not_mem_of_woken (h : Ordered q acts) (hwaking : q.waking = [])
    (hmem : entry ∈ q.entries) : entry.1 ∉ woken acts := by
  intro hwoken
  rcases h.woken_cases _ hwoken with hnow | hremoved
  · rw [hwaking] at hnow
    cases hnow
  · exact (h.mem_entries hmem).2 hremoved

/-- Who gave up has left. -/
theorem removed_of_gaveUp {n : Nat} (hn : n ∈ gaveUp acts) :
    n ∈ removed acts := by
  obtain ⟨a, hmem, ha⟩ := List.mem_filterMap.1 hn
  refine List.mem_filterMap.2 ⟨a, hmem, ?_⟩
  cases a with
  | giveUp entry => exact ha
  | _ => cases ha

/-- Who was dropped has left. -/
theorem removed_of_dropped {n : Nat} (hn : n ∈ dropped acts) :
    n ∈ removed acts := by
  obtain ⟨a, hmem, ha⟩ := List.mem_filterMap.1 hn
  refine List.mem_filterMap.2 ⟨a, hmem, ?_⟩
  cases a with
  | drop entry => exact ha
  | _ => cases ha

/-- **The order of the wake-ups.** The first is woken: whoever came before has been woken, has given up,
or was dropped, and whoever has been woken came before. -/
theorem Ordered.wake (h : Ordered q acts) (hwaking : q.waking = [])
    (hhead : q.entries.head? = some entry) :
    Ordered { q with waking := [entry.1] } (acts ++ [.wake entry]) where
  count_eq := h.count_eq
  numbers_eq := by simpa [Act.added] using h.numbers_eq
  entries_eq := by simpa [Act.added, Act.removed] using h.entries_eq
  removed_nodup := by simpa [Act.removed] using h.removed_nodup
  removed_lt := by simpa [Act.removed] using h.removed_lt
  removed_cases := by
    intro n hn
    rw [woken_concat, gaveUp_concat, dropped_concat]
    have hold := h.removed_cases n (by simpa [Act.removed] using hn)
    rcases hold with hwoken | hgone
    · exact .inl (List.mem_append_left _ hwoken)
    · exact .inr (by simpa [Act.gaveUp, Act.dropped] using hgone)
  waking_cases := .inr ⟨entry, List.mem_of_head? hhead, rfl, by simp [Act.woken]⟩
  woken_cases := by
    intro n hn
    rw [woken_concat, List.mem_append] at hn
    rcases hn with hold | hnew
    · rcases h.woken_cases n hold with hnow | hremoved
      · rw [hwaking] at hnow
        cases hnow
      · exact .inr (by simpa [Act.removed] using hremoved)
    · exact .inl hnew
  woken_sorted := by
    rw [woken_concat]
    refine List.pairwise_append.2 ⟨h.woken_sorted, List.pairwise_singleton _ _, ?_⟩
    intro n hn m hm
    obtain rfl : m = entry.1 := by simpa [Act.woken] using hm
    have hmem := List.mem_of_head? hhead
    have hstays := (h.mem_entries hmem).2
    by_contra hle
    rcases Nat.lt_or_eq_of_le (Nat.not_lt.1 hle) with hlt | heq
    · -- the first would have been passed over when `n` was woken
      rcases h.woken_before n hn _ hlt with hwoken | hgaveUp | hdropped
      · exact h.not_mem_of_woken hwaking hmem hwoken
      · exact hstays (removed_of_gaveUp hgaveUp)
      · exact hstays (removed_of_dropped hdropped)
    · rw [← heq] at hn
      exact h.not_mem_of_woken hwaking hmem hn
  woken_before := by
    intro n hn m hm
    simp only [woken_concat, gaveUp_concat, dropped_concat, Act.woken, Act.gaveUp, Act.dropped,
      Option.toList_some,
      Option.toList_none, List.append_nil, List.mem_append, List.mem_singleton] at hn ⊢
    have hold : m ∈ woken acts ∨ m ∈ gaveUp acts ∨
        m ∈ dropped acts := by
      rcases hn with hold | rfl
      · exact h.woken_before n hold m hm
      · refine h.removed_cases m ?_
        by_contra hstays
        have hlt := (h.mem_entries (List.mem_of_head? hhead)).1
        obtain ⟨other, hother, rfl⟩ := h.exists_entry (hm.trans hlt) hstays
        exact absurd (h.head_le hhead hother) (Nat.not_le.2 hm)
    rcases hold with hwoken | hgone
    · exact .inl (.inl hwoken)
    · exact .inr hgone

/-- A waiter who is in the queue leaves it. -/
theorem Ordered.remove (h : Ordered q acts) {a : Act α} (hmem : entry ∈ q.entries)
    (hremoved : a.removed = some entry.1) (hadded : a.added = none) (hwoken : a.woken = none)
    (hcases : entry.1 ∈ woken acts ∨ a.gaveUp = some entry.1 ∨
      a.dropped = some entry.1)
    (hwaking : q.waking = [] ∨ q.waking = [entry.1]) :
    Ordered { q.remove entry.1 with waking := [] } (acts ++ [a]) where
  count_eq := by
    have hlength := h.length_remove hmem
    have hcount := h.count_eq
    have hone : (1 : UInt32) ≤ q.count := by
      rw [UInt32.le_iff_toNat_le, UInt32.toNat_one]
      omega
    change (q.count - 1).toNat = (q.entries.filter (·.1 ≠ entry.1)).length
    rw [UInt32.toNat_sub_of_le _ _ hone, UInt32.toNat_one]
    omega
  numbers_eq := by simpa [hadded, WaitQueue.remove] using h.numbers_eq
  entries_eq := by
    change q.entries.filter (·.1 ≠ entry.1) = _
    rw [queued_concat, removed_concat, hadded, hremoved, h.entries_eq, List.filter_filter]
    simp only [Option.toList_none, Option.toList_some, List.append_nil]
    refine List.filter_congr fun other _ => ?_
    simp [not_or, and_comm]
  removed_nodup := by
    rw [removed_concat, hremoved]
    refine h.removed_nodup.append (List.nodup_singleton _) ?_
    intro n hn hnew
    obtain rfl := List.mem_singleton.1 hnew
    exact (h.mem_entries hmem).2 hn
  removed_lt := by
    intro n hn
    rw [removed_concat, hremoved, List.mem_append] at hn
    rcases hn with hold | hnew
    · exact h.removed_lt n hold
    · obtain rfl := List.mem_singleton.1 hnew
      exact (h.mem_entries hmem).1
  removed_cases := by
    intro n hn
    simp only [woken_concat, gaveUp_concat, dropped_concat, removed_concat, hremoved, hwoken,
      Option.toList_some, Option.toList_none, List.append_nil, List.mem_append, List.mem_singleton] at hn ⊢
    rcases hn with hold | rfl
    · rcases h.removed_cases n hold with hwas | hgaveUp | hdropped
      · exact .inl hwas
      · exact .inr (.inl (.inl hgaveUp))
      · exact .inr (.inr (.inl hdropped))
    · rcases hcases with hwas | hgaveUp | hdropped
      · exact .inl hwas
      · exact .inr (.inl (.inr (by simp [hgaveUp])))
      · exact .inr (.inr (.inr (by simp [hdropped])))
  waking_cases := .inl rfl
  woken_cases := by
    intro n hn
    simp only [woken_concat, removed_concat, hremoved, hwoken,
      Option.toList_some, Option.toList_none, List.append_nil, List.mem_append, List.mem_singleton] at hn ⊢
    rcases h.woken_cases n hn with hnow | hold
    · rcases hwaking with hnone | hone
      · rw [hnone] at hnow
        cases hnow
      · rw [hone] at hnow
        exact .inr (.inr (List.mem_singleton.1 hnow))
    · exact .inr (.inl hold)
  woken_sorted := by simpa [hwoken] using h.woken_sorted
  woken_before := by
    intro n hn m hm
    simp only [woken_concat, gaveUp_concat, dropped_concat, hwoken, Option.toList_none, List.append_nil,
      List.mem_append] at hn ⊢
    rcases h.woken_before n hn m hm with hwas | hgaveUp | hdropped
    · exact .inl hwas
    · exact .inr (.inl (.inl hgaveUp))
    · exact .inr (.inr (.inl hdropped))

/-- Each act keeps the queue in order. -/
theorem Ordered.step [DecidableEq α] (h : Ordered q acts) {a : Act α} (hstep : q.step a = some q') :
    Ordered q' (acts ++ [a]) := by
  cases a with
  | add entry =>
      rw [WaitQueue.step] at hstep
      split at hstep
      case isTrue hok =>
        cases hstep
        exact h.add hok.1 hok.2
      case isFalse => cases hstep
  | wake entry =>
      rw [WaitQueue.step] at hstep
      split at hstep
      case isTrue hok =>
        cases hstep
        exact h.wake hok.1 hok.2
      case isFalse => cases hstep
  | giveUp entry =>
      rw [WaitQueue.step] at hstep
      split at hstep
      case isTrue hok =>
        cases hstep
        have hremove := h.remove (a := .giveUp entry) hok.2 rfl rfl rfl (.inr (.inl rfl)) (.inl hok.1)
        rwa [← hok.1] at hremove
      case isFalse => cases hstep
  | drop entry =>
      rw [WaitQueue.step] at hstep
      split at hstep
      case isTrue hok =>
        cases hstep
        have hremove := h.remove (a := .drop entry) (List.mem_of_head? hok.2) rfl rfl rfl
          (.inr (.inr rfl)) (.inl hok.1)
        rwa [← hok.1] at hremove
      case isFalse => cases hstep
  | unlink number =>
      rw [WaitQueue.step] at hstep
      split at hstep
      case isTrue hwaking =>
        cases hstep
        rcases h.waking_cases with hnone | ⟨entry, hmem, hone, hwoken⟩
        · rw [hnone] at hwaking
          cases hwaking
        · rw [hone] at hwaking
          obtain rfl : entry.1 = number := List.singleton_inj.1 hwaking
          exact h.remove hmem rfl rfl rfl (.inl hwoken) (.inr hone)
      case isFalse => cases hstep

/-- Every run keeps the queue in order. -/
theorem exec_ordered [DecidableEq α] (h : Machine.exec step ({} : WaitQueue α) acts = some q) :
    Ordered q acts := by
  have hrun : Ordered q ([] ++ acts) :=
    Machine.exec_inv_history (I := Ordered) (fun _ _ _ _ hq hstep => hq.step hstep) h ordered_initial
  exact hrun

/-- The first waiter for whom a test holds is erased: only his number goes. -/
theorem eraseP_eq_filter {entries : List (Ticket α)} (hnodup : (entries.map Prod.fst).Nodup)
    {p : Ticket α → Bool} (hfind : entries.find? p = some entry) :
    entries.eraseP p = entries.filter (·.1 ≠ entry.1) := by
  induction entries with
  | nil => cases hfind
  | cons first rest ih =>
      rw [List.map_cons, List.nodup_cons] at hnodup
      cases hp : p first with
      | true =>
          rw [List.find?_cons_of_pos hp] at hfind
          obtain rfl := Option.some.inj hfind
          have hall : ∀ other ∈ rest, other.1 ≠ first.1 := fun other hother heq =>
            hnodup.1 (heq ▸ List.mem_map_of_mem hother)
          rw [List.eraseP_cons_of_pos hp, List.filter_cons_of_neg (by simp),
            List.filter_eq_self.2 (by simpa using hall)]
      | false =>
          have hneg : ¬ p first = true := by rw [hp]; exact Bool.false_ne_true
          rw [List.find?_cons_of_neg hneg] at hfind
          have hne : first.1 ≠ entry.1 := fun heq =>
            hnodup.1 (heq ▸ List.mem_map_of_mem (List.mem_of_find?_eq_some hfind))
          rw [List.eraseP_cons_of_neg hneg, List.filter_cons_of_pos (by simpa using hne),
            ih hnodup.2 hfind]

/-- The first waiters are dropped, one after the other. -/
theorem exec_drop [DecidableEq α] {gone rest : List (Ticket α)} (hwaking : q.waking = [])
    (hentries : q.entries = gone ++ rest) (hnodup : (q.entries.map Prod.fst).Nodup) :
    Machine.exec step q (gone.map Act.drop) =
      some { q with entries := rest, count := q.count - UInt32.ofNat gone.length } := by
  induction gone generalizing q with
  | nil =>
      cases q
      simp_all
  | cons entry gone ih =>
      have hhead : q.entries.head? = some entry := by rw [hentries]; rfl
      have hrest : q.entries.filter (·.1 ≠ entry.1) = gone ++ rest := by
        rw [hentries, List.cons_append, List.map_cons, List.nodup_cons] at hnodup
        have hall : ∀ other ∈ gone ++ rest, other.1 ≠ entry.1 := fun other hother heq =>
          hnodup.1 (heq ▸ List.mem_map_of_mem hother)
        rw [hentries, List.cons_append, List.filter_cons_of_neg (by simp),
          List.filter_eq_self.2 (by simpa using hall)]
      have hdrop : q.step (.drop entry) = some (q.remove entry.1) := by
        rw [step, if_pos ⟨hwaking, hhead⟩]
      have hnodup' : ((q.remove entry.1).entries.map Prod.fst).Nodup :=
        hnodup.sublist (List.filter_sublist.map _)
      rw [List.map_cons, Machine.exec, hdrop, Option.bind_some,
        ih (q := q.remove entry.1) hwaking hrest hnodup']
      have hcount : q.count - 1 - UInt32.ofNat gone.length =
          q.count - UInt32.ofNat (entry :: gone).length := by
        rw [List.length_cons, UInt32.ofNat_add]
        change q.count - 1 - UInt32.ofNat gone.length = q.count - (UInt32.ofNat gone.length + 1)
        grind
      simp only [WaitQueue.remove, hcount]

end

end WaitQueue
