import Mathlib

/-!
# Tables

A finite map as a program has it: a list of entries in which no key is twice. What a table says is
`find?`; the order of the entries has no meaning, and two tables are the same map if they have the
same `find?`. The lemmas say what each operation does to `find?`.
-/

universe u v

/-- A table from keys to values. -/
structure Table (κ : Type u) (υ : Type v) where
  entries : List (κ × υ)
  nodup : (entries.map Prod.fst).Nodup
  deriving DecidableEq, Repr

namespace Table

variable {κ : Type u} {υ : Type v} [DecidableEq κ]

def empty : Table κ υ := ⟨[], List.nodup_nil⟩

instance : EmptyCollection (Table κ υ) := ⟨empty⟩

instance : Inhabited (Table κ υ) := ⟨∅⟩

/-- The value at a key. -/
def find? (t : Table κ υ) (key : κ) : Option υ := t.entries.lookup key

/-- The entries for which a test holds. -/
def filter (t : Table κ υ) (p : κ → υ → Bool) : Table κ υ :=
  ⟨t.entries.filter fun e => p e.1 e.2, t.nodup.sublist (List.filter_sublist.map _)⟩

/-- The table without an entry at the key. -/
def erase (t : Table κ υ) (key : κ) : Table κ υ := t.filter fun k _ => k ≠ key

/-- The table with this value at the key. -/
def insert (t : Table κ υ) (key : κ) (value : υ) : Table κ υ :=
  ⟨(key, value) :: (t.erase key).entries, by
    rw [List.map_cons, List.nodup_cons]
    refine ⟨fun h => ?_, (t.erase key).nodup⟩
    obtain ⟨e, he, heq⟩ := List.mem_map.1 h
    have hne := (List.mem_filter.1 he).2
    rw [heq] at hne
    simp at hne⟩

/-- The table with every value replaced. -/
def mapValues (t : Table κ υ) (f : κ → υ → υ) : Table κ υ :=
  ⟨t.entries.map fun e => (e.1, f e.1 e.2), by rw [List.map_map]; exact t.nodup⟩

/-- The table with the value at the key replaced, if there is one. -/
def modify (t : Table κ υ) (key : κ) (f : υ → υ) : Table κ υ :=
  t.mapValues fun k value => if k = key then f value else value

/-- The keys. -/
def keys (t : Table κ υ) : List κ := t.entries.map Prod.fst

/-- The keys whose value passes a test. -/
def keysWhere (t : Table κ υ) (p : υ → Bool) : List κ :=
  (t.entries.filter fun e => p e.2).map Prod.fst

/-- A list with different keys: what is found for one is its entry. -/
theorem lookup_eq_some_iff {l : List (κ × υ)} (h : (l.map Prod.fst).Nodup) {key : κ} {value : υ} :
    l.lookup key = some value ↔ (key, value) ∈ l := by
  induction l with
  | nil => simp
  | cons e l ih =>
      rw [List.map_cons, List.nodup_cons] at h
      rw [List.lookup_cons, List.mem_cons]
      cases hkey : key == e.1 with
      | true =>
          obtain rfl := eq_of_beq hkey
          have hnot : (e.1, value) ∉ l := fun hmem => h.1 (List.mem_map.2 ⟨_, hmem, rfl⟩)
          constructor
          · intro hv
            obtain rfl := Option.some.inj hv
            exact .inl rfl
          · rintro (heq | hmem)
            · rw [← heq]
            · exact absurd hmem hnot
      | false =>
          have hne : key ≠ e.1 := by
            rw [← beq_eq_false_iff_ne]
            exact hkey
          dsimp only
          rw [ih h.2]
          constructor
          · exact .inr
          · rintro (heq | hmem)
            · exact absurd (congrArg Prod.fst heq) hne
            · exact hmem

section
variable (t : Table κ υ) {key : κ} {value : υ}

/-- What is found is an entry. -/
theorem find?_eq_some : t.find? key = some value ↔ (key, value) ∈ t.entries :=
  lookup_eq_some_iff t.nodup

/-- Nothing is found in the empty table. -/
@[simp] theorem find?_empty : (∅ : Table κ υ).find? key = none := rfl

/-- What is found in a part of a table. -/
@[simp] theorem find?_filter (p : κ → υ → Bool) (key : κ) :
    (t.filter p).find? key = (t.find? key).filter (p key) := by
  apply Option.ext
  intro value
  rw [find?_eq_some, filter, List.mem_filter, ← find?_eq_some, Option.filter_eq_some_iff]

/-- An erased key is not found, and the others are. -/
@[simp] theorem find?_erase (key key' : κ) :
    (t.erase key).find? key' = if key' = key then none else t.find? key' := by
  rw [erase, find?_filter]
  split
  case isTrue h => simp [h]
  case isFalse h => cases t.find? key' <;> simp [h]

/-- An inserted key is found, and the others as before. -/
@[simp] theorem find?_insert (key : κ) (value : υ) (key' : κ) :
    (t.insert key value).find? key' = if key' = key then some value else t.find? key' := by
  have hlookup : (t.insert key value).find? key' =
      if key' == key then some value else (t.erase key).find? key' := by
    rw [find?, insert, List.lookup_cons]
    cases key' == key <;> rfl
  rw [hlookup, find?_erase]
  split
  case isTrue h =>
    rw [if_pos (eq_of_beq h)]
  case isFalse h =>
    have hne : key' ≠ key := fun he => h (by rw [he, beq_self_eq_true])
    rw [if_neg hne, if_neg hne]

/-- What is found when all values have changed. -/
@[simp] theorem find?_mapValues (f : κ → υ → υ) (key : κ) :
    (t.mapValues f).find? key = (t.find? key).map (f key) := by
  apply Option.ext
  intro value
  rw [find?_eq_some, mapValues, List.mem_map, Option.map_eq_some_iff]
  constructor
  · rintro ⟨e, hmem, heq⟩
    cases heq
    exact ⟨e.2, t.find?_eq_some.2 hmem, rfl⟩
  · rintro ⟨value, hfind, rfl⟩
    exact ⟨(key, value), t.find?_eq_some.1 hfind, rfl⟩

/-- What is found when the value of one key has changed. -/
@[simp] theorem find?_modify (key : κ) (f : υ → υ) (key' : κ) :
    (t.modify key f).find? key' = if key' = key then (t.find? key').map f else t.find? key' := by
  rw [modify, find?_mapValues]
  split
  case isTrue => rfl
  case isFalse => rw [Option.map_id']

/-- A key of the table is one for which something is found. -/
@[simp] theorem mem_keys : key ∈ t.keys ↔ ∃ value, t.find? key = some value := by
  rw [keys, List.mem_map]
  constructor
  · rintro ⟨e, hmem, rfl⟩
    exact ⟨e.2, t.find?_eq_some.2 hmem⟩
  · rintro ⟨value, hfind⟩
    exact ⟨(key, value), t.find?_eq_some.1 hfind, rfl⟩

/-- The keys of some values. -/
@[simp] theorem mem_keysWhere {p : υ → Bool} :
    key ∈ t.keysWhere p ↔ ∃ value, t.find? key = some value ∧ p value = true := by
  rw [keysWhere, List.mem_map]
  constructor
  · rintro ⟨e, he, rfl⟩
    obtain ⟨hmem, hp⟩ := List.mem_filter.1 he
    exact ⟨e.2, t.find?_eq_some.2 hmem, hp⟩
  · rintro ⟨value, hfind, hp⟩
    exact ⟨(key, value), List.mem_filter.2 ⟨t.find?_eq_some.1 hfind, hp⟩, rfl⟩

omit [DecidableEq κ] in
/-- Every key is there once. -/
theorem nodup_keysWhere (p : υ → Bool) : (t.keysWhere p).Nodup :=
  t.nodup.sublist (List.filter_sublist.map _)

/-- The entries that are left when the first is erased. -/
theorem entries_erase_of_cons {entry : κ × υ} {entries : List (κ × υ)}
    (h : t.entries = entry :: entries) : (t.erase entry.1).entries = entries := by
  have hnodup := t.nodup
  rw [h, List.map_cons, List.nodup_cons] at hnodup
  change t.entries.filter (fun e => e.1 ≠ entry.1) = entries
  rw [h, List.filter_cons_of_neg (by simp), List.filter_eq_self]
  intro e he
  have hne : e.1 ≠ entry.1 := fun heq => hnodup.1 (heq ▸ List.mem_map_of_mem he)
  simpa using hne

/-- An erased key is gone, and the others keep their order. -/
theorem keys_erase (key : κ) : (t.erase key).keys = t.keys.filter (· ≠ key) := by
  rw [keys, keys, List.filter_map]
  rfl

/-- Erasing a key that is not there changes nothing. -/
theorem erase_of_find?_none (h : t.find? key = none) : t.erase key = t := by
  have hentries : (t.erase key).entries = t.entries := by
    rw [erase, filter, List.filter_eq_self]
    intro e he
    have hne : e.1 ≠ key := by
      rintro rfl
      exact absurd (t.find?_eq_some.2 he) (by simp [h])
    simpa using hne
  cases ht : t with
  | mk entries nodup =>
      rw [ht] at hentries
      exact (Table.mk.injEq ..).mpr hentries

/-- Erasing a key again changes nothing. -/
theorem erase_erase (key : κ) : (t.erase key).erase key = t.erase key :=
  (t.erase key).erase_of_find?_none (by simp)

/-- A value is written at every key of a list. -/
theorem find?_foldl_insert (keys : List κ) (value : υ) (t : Table κ υ) (key : κ) :
    (keys.foldl (fun t k => t.insert k value) t).find? key =
      if key ∈ keys then some value else t.find? key := by
  induction keys generalizing t with
  | nil => rfl
  | cons k keys ih =>
      rw [List.foldl_cons, ih, find?_insert]
      by_cases hmem : key ∈ keys
      · rw [if_pos hmem, if_pos (List.mem_cons_of_mem _ hmem)]
      · rw [if_neg hmem]
        by_cases hk : key = k
        · rw [if_pos hk, if_pos (by rw [hk]; exact List.mem_cons_self)]
        · rw [if_neg hk, if_neg (by rw [List.mem_cons, not_or]; exact ⟨hk, hmem⟩)]

end

end Table
