import Mathlib

/-!
# Insertion from the back of a sorted list

A loop goes over a sorted list from its end, until it finds an element with a smaller key, and inserts
behind it. `smaller` and `others` are what is in front of the place and behind it.
-/

namespace Sorted

variable {α β : Type*} [LinearOrder β] (key : α → β) (k : β)

/-- What is in front of the place: up to the last element with a smaller key. -/
def smaller (l : List α) : List α := l.rdropWhile fun a => decide (k ≤ key a)

/-- What is behind the place. -/
def others (l : List α) : List α := l.rtakeWhile fun a => decide (k ≤ key a)

/-- The list with an element at the place. -/
def insertAt (x : α) (l : List α) : List α := smaller key k l ++ x :: others key k l

/-- The two parts of the list. -/
theorem smaller_append_others (l : List α) : smaller key k l ++ others key k l = l :=
  List.rdropWhile_append_rtakeWhile

section
variable {key k} {l : List α} {x : α}

theorem le_of_mem_others {a : α} (h : a ∈ others key k l) : k ≤ key a :=
  of_decide_eq_true (List.mem_rtakeWhile_imp (p := fun a => decide (k ≤ key a)) h)

/-- All the elements in front of the place have smaller keys. -/
theorem lt_of_mem_smaller (h : l.Pairwise fun a b => key a ≤ key b) {a : α} (ha : a ∈ smaller key k l) :
    key a < k := by
  have hne : smaller key k l ≠ [] := List.ne_nil_of_mem ha
  have hlast : key ((smaller key k l).getLast hne) < k := by
    have hnot := List.rdropWhile_last_not (fun a => decide (k ≤ key a)) l hne
    exact not_le.1 (mt decide_eq_true hnot)
  have hsorted : (smaller key k l).Pairwise fun a b => key a ≤ key b :=
    h.sublist (List.rdropWhile_prefix (fun a => decide (k ≤ key a)) (l := l)).sublist
  exact (hsorted.rel_getLast_of_rel_getLast_getLast ha le_rfl).trans_lt hlast

/-- The list with the new element has the old ones and this one. -/
theorem insertAt_perm (x : α) (l : List α) : (insertAt key k x l).Perm (x :: l) := by
  have hperm : (insertAt key k x l).Perm (x :: (smaller key k l ++ others key k l)) := List.perm_middle
  rwa [smaller_append_others] at hperm

theorem length_insertAt (x : α) (l : List α) : (insertAt key k x l).length = l.length + 1 :=
  (insertAt_perm x l).length_eq

/-- If any element is in front of the place, the first one is. -/
theorem smaller_cons {a : α} (h : smaller key k (a :: l) ≠ []) :
    ∃ before, smaller key k (a :: l) = a :: before ∧ before ++ others key k (a :: l) = l := by
  obtain ⟨b, before, hb⟩ := List.exists_cons_of_ne_nil h
  have happend := smaller_append_others key k (a :: l)
  rw [hb, List.cons_append] at happend
  obtain ⟨rfl, hrest⟩ := List.cons.inj happend
  exact ⟨before, hb, hrest⟩

/-- The first element stays the first, unless none is smaller. -/
theorem insertAt_cons {a : α} (h : smaller key k (a :: l) ≠ []) :
    ∃ rest, insertAt key k x (a :: l) = a :: rest ∧ rest.Perm (x :: l) := by
  obtain ⟨before, hbefore, hrest⟩ := smaller_cons h
  have hperm : (before ++ x :: others key k (a :: l)).Perm (x :: (before ++ others key k (a :: l))) :=
    List.perm_middle
  rw [hrest] at hperm
  exact ⟨_, by rw [insertAt, hbefore, List.cons_append], hperm⟩

/-- The list stays sorted, if the new element is in order at its place. -/
theorem pairwise_insertAt {R : α → α → Prop} (h : l.Pairwise R) (hsmaller : ∀ a ∈ smaller key k l, R a x)
    (hothers : ∀ a ∈ others key k l, R x a) : (insertAt key k x l).Pairwise R := by
  rw [← smaller_append_others key k l, List.pairwise_append] at h
  obtain ⟨hbefore, hbehind, hbetween⟩ := h
  refine List.pairwise_append.2 ⟨hbefore, List.pairwise_cons.2 ⟨hothers, hbehind⟩, fun a ha b hb => ?_⟩
  rcases List.mem_cons.1 hb with rfl | hb
  · exact hsmaller a ha
  · exact hbetween a ha b hb

end

end Sorted
