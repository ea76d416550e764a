import Mathlib

/-!
# Frames of one size

Frames that all have the same size are written one after the other into a stream. The stream does not say
where a frame ends, and need not: `prefix_of_flatMap` has that the frames can be read back from a
beginning of the stream.
-/

namespace Frames

variable {α β : Type*} {f : α → List β} {n : Nat}

theorem length_flatMap (hsize : ∀ a, (f a).length = n) (frames : List α) :
    (frames.flatMap f).length = n * frames.length := by
  induction frames with
  | nil => rw [List.flatMap_nil, List.length_nil, List.length_nil, Nat.mul_zero]
  | cons a frames ih =>
      rw [List.flatMap_cons, List.length_append, hsize, ih, List.length_cons, Nat.mul_succ,
        Nat.add_comm]

/-- **A beginning of the stream that ends with a frame is a beginning of the frames.** -/
theorem prefix_of_flatMap (hsize : ∀ a, (f a).length = n) (hn : 0 < n) (hinj : Function.Injective f)
    {read frames : List α} (h : read.flatMap f <+: frames.flatMap f) : read <+: frames := by
  induction read generalizing frames with
  | nil => exact List.nil_prefix
  | cons a read ih =>
      cases frames with
      | nil =>
          have hlen := h.length_le
          rw [List.flatMap_cons, List.length_append, hsize, List.flatMap_nil, List.length_nil] at hlen
          omega
      | cons b frames =>
          rw [List.flatMap_cons, List.flatMap_cons] at h
          obtain ⟨rest, h⟩ := h
          rw [List.append_assoc] at h
          obtain ⟨hab, h⟩ := List.append_inj h ((hsize a).trans (hsize b).symm)
          rw [hinj hab]
          exact List.prefix_cons_inj b |>.2 (ih ⟨rest, h⟩)

/-- What was read from a stream, and what of it is not a whole frame. -/
theorem eq_of_flatMap_append (hsize : ∀ a, (f a).length = n) (hinj : Function.Injective f)
    {read frames : List α} {rest : List β} (h : frames.flatMap f = read.flatMap f ++ rest)
    (hrest : rest.length < n) : read = frames := by
  have hn : 0 < n := Nat.lt_of_le_of_lt (Nat.zero_le _) hrest
  obtain ⟨more, rfl⟩ := prefix_of_flatMap hsize hn hinj ⟨rest, h.symm⟩
  have hmore : more = [] := by
    rw [List.flatMap_append] at h
    have hlen := congrArg List.length (List.append_cancel_left h)
    rw [length_flatMap hsize] at hlen
    cases more with
    | nil => rfl
    | cons a more =>
        rw [List.length_cons, Nat.mul_succ] at hlen
        omega
  rw [hmore, List.append_nil]

end Frames
