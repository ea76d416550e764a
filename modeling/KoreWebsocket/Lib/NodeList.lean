import KoreWebsocket.Lib.Table

/-!
# Lists of nodes

What a program relies on of a library of linked lists. A list is known by its nodes, from head to tail,
and an iterator by the node that it gives next, which it holds a pointer to. The library frees the nodes
that it removes, so an iterator whose next node is removed gives nothing (`next_removed`).
-/

/-- A library of linked lists. Nodes are known by pointers, which the program gives with the nodes. -/
structure ListLibrary where
  Lst : Type → Type
  /-- The nodes of a list, each with its value. -/
  nodes : {α : Type} → Lst α → List (Nat × α)
  new : {α : Type} → Lst α
  rpush : {α : Type} → Lst α → Nat → α → Lst α
  /-- The first node with a value that matches. -/
  find : {α : Type} → Lst α → (α → Bool) → Option Nat
  remove : {α : Type} → Lst α → Nat → Lst α
  len : {α : Type} → Lst α → Nat
  Iter : Type
  /-- An iterator from the head of a list. -/
  iterator : {α : Type} → Lst α → Iter
  /-- The node that an iterator gives next. -/
  upcoming : Iter → Option Nat
  /-- The next node of an iterator, if there is one, and the iterator after it. There is no result if a
  node is used that is removed. -/
  next : {α : Type} → Lst α → Iter → Option (Option Nat × Iter)
  nodes_new : ∀ {α : Type}, nodes (new : Lst α) = []
  nodes_rpush : ∀ {α : Type} (l : Lst α) (node : Nat) (a : α),
    nodes (rpush l node a) = nodes l ++ [(node, a)]
  find_eq : ∀ {α : Type} (l : Lst α) (p : α → Bool),
    find l p = ((nodes l).find? fun e => p e.2).map Prod.fst
  nodes_remove : ∀ {α : Type} (l : Lst α) (node : Nat),
    nodes (remove l node) = (nodes l).filter (·.1 ≠ node)
  len_eq : ∀ {α : Type} (l : Lst α), len l = (nodes l).length
  upcoming_iterator : ∀ {α : Type} (l : Lst α), upcoming (iterator l) = (nodes l).head?.map Prod.fst
  next_end : ∀ {α : Type} (l : Lst α) (it : Iter), upcoming it = none →
    ∃ it', next l it = some (none, it')
  next_node : ∀ {α : Type} (l : Lst α) (it : Iter) (before after : List (Nat × α)) (node : Nat) (a : α),
    upcoming it = some node → nodes l = before ++ (node, a) :: after → node ∉ before.map Prod.fst →
      ∃ it', next l it = some (some node, it') ∧ upcoming it' = after.head?.map Prod.fst
  next_removed : ∀ {α : Type} (l : Lst α) (it : Iter) (node : Nat),
    upcoming it = some node → node ∉ (nodes l).map Prod.fst → next l it = none

namespace ListLibrary

variable (lib : ListLibrary) {α : Type}

/-- The value of a node, unless it is removed. -/
def val (l : lib.Lst α) (node : Nat) : Option α := (lib.nodes l).lookup node

variable {lib}

/-- A node of a list has a value. -/
theorem val_isSome {l : lib.Lst α} {node : Nat} :
    (lib.val l node).isSome = true ↔ node ∈ (lib.nodes l).map Prod.fst := by
  rw [val, List.lookup_isSome_iff, List.mem_map]
  exact exists_congr fun e => and_congr_right fun _ => beq_iff_eq.trans eq_comm

theorem val_eq_none {l : lib.Lst α} {node : Nat} :
    lib.val l node = none ↔ node ∉ (lib.nodes l).map Prod.fst := by
  rw [← val_isSome, Option.not_isSome_iff_eq_none]

theorem val_eq_some {l : lib.Lst α} (hnodup : ((lib.nodes l).map Prod.fst).Nodup) {node : Nat} {a : α} :
    lib.val l node = some a ↔ (node, a) ∈ lib.nodes l :=
  Table.lookup_eq_some_iff hnodup

/-- The value of a node, where the list has it first. -/
theorem val_of_append {l : lib.Lst α} {before after : List (Nat × α)} {n : Nat × α}
    (h : lib.nodes l = before ++ n :: after) (hnew : n.1 ∉ before.map Prod.fst) :
    lib.val l n.1 = some n.2 := by
  have hbefore : before.lookup n.1 = none :=
    List.lookup_eq_none_iff.2 fun e he =>
      bne_iff_ne.2 fun heq => hnew (List.mem_map.2 ⟨e, he, heq.symm⟩)
  rw [val, h, List.lookup_append, hbefore, Option.none_or]
  exact List.lookup_cons_self

/-- A node is removed, and the others stay. -/
theorem nodes_remove_of_append {l : lib.Lst α} {before after : List (Nat × α)} {n : Nat × α}
    (h : lib.nodes l = before ++ n :: after) (hnodup : ((lib.nodes l).map Prod.fst).Nodup) :
    lib.nodes (lib.remove l n.1) = before ++ after := by
  have hkeep : ∀ ns : List (Nat × α), n.1 ∉ ns.map Prod.fst → ns.filter (fun m => m.1 ≠ n.1) = ns :=
    fun ns hns => List.filter_eq_self.2 fun m hm => decide_eq_true fun heq => hns (by
      rw [← heq]
      exact List.mem_map_of_mem hm)
  rw [h, List.map_append, List.map_cons, List.nodup_middle, List.nodup_cons, List.mem_append, not_or]
    at hnodup
  rw [lib.nodes_remove, h, List.filter_append, List.filter_cons_of_neg (by simp),
    hkeep before hnodup.1.1, hkeep after hnodup.1.2]

/-- The value that is found. -/
theorem find_bind_val {l : lib.Lst α} (hnodup : ((lib.nodes l).map Prod.fst).Nodup) (p : α → Bool) :
    (lib.find l p).bind (lib.val l) = ((lib.nodes l).map Prod.snd).find? p := by
  rw [lib.find_eq, List.find?_map]
  change _ = ((lib.nodes l).find? fun e => p e.2).map Prod.snd
  cases hfind : (lib.nodes l).find? fun e => p e.2 with
  | none => rfl
  | some e => exact (val_eq_some hnodup).2 (List.mem_of_find?_eq_some hfind)

/-! ## A library -/

/-- Lists themselves, with iterators that are pointers. -/
def lists : ListLibrary where
  Lst := fun α => List (Nat × α)
  nodes := id
  new := []
  rpush := fun l node a => l ++ [(node, a)]
  find := fun l p => (l.find? fun e => p e.2).map Prod.fst
  remove := fun l node => l.filter (·.1 ≠ node)
  len := List.length
  Iter := Option Nat
  iterator := fun l => l.head?.map Prod.fst
  upcoming := id
  next := fun l it =>
    match it with
    | none => some (none, none)
    | some node =>
        match l.dropWhile (·.1 ≠ node) with
        | [] => none
        | _ :: after => some (some node, after.head?.map Prod.fst)
  nodes_new := rfl
  nodes_rpush := fun _ _ _ => rfl
  find_eq := fun _ _ => rfl
  nodes_remove := fun _ _ => rfl
  len_eq := fun _ => rfl
  upcoming_iterator := fun _ => rfl
  next_end := fun l it h => by
    obtain rfl : it = none := h
    exact ⟨none, rfl⟩
  next_node := fun l it before after node a hit hl hnew => by
    obtain rfl : it = some node := hit
    obtain rfl : l = before ++ (node, a) :: after := hl
    have hbefore : ∀ e ∈ before, decide (e.1 ≠ node) = true := fun e he =>
      decide_eq_true fun heq => hnew (List.mem_map.2 ⟨e, he, heq⟩)
    dsimp only
    rw [List.dropWhile_append_of_pos hbefore, List.dropWhile_cons_of_neg (by simp)]
    exact ⟨_, rfl, rfl⟩
  next_removed := fun l it node hit hnew => by
    obtain rfl : it = some node := hit
    have hall : ∀ e ∈ l, decide (e.1 ≠ node) = true := fun e he =>
      decide_eq_true fun heq => hnew (List.mem_map.2 ⟨e, he, heq⟩)
    dsimp only
    rw [List.dropWhile_eq_nil_iff.2 hall]

end ListLibrary
