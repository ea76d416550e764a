import KoreWebsocket.Lib.Bytes
import KoreWebsocket.Lib.Checked

/-!
# Writers

A writer puts bytes at an offset of a buffer and returns how many. `Writes w bytes` says that it puts
exactly these bytes there, whatever the buffer held, and nothing elsewhere; writers in a row put their
bytes in a row.
-/

namespace Bytes

/-- A function over a buffer and an offset: the buffer behind it and the number of bytes. -/
abbrev Writer := List UInt8 → Nat → Except Fault (List UInt8 × Nat)

namespace Writer

/-- `memcpy` to the offset. -/
def put (bytes : List UInt8) : Writer := fun buffer offset => do
  let buffer ← write buffer offset bytes
  .ok (buffer, bytes.length)

/-- One writer behind another. -/
def andThen (v w : Writer) : Writer := fun buffer offset => do
  let (buffer, m) ← v buffer offset
  let (buffer, n) ← w buffer (offset + m)
  .ok (buffer, m + n)

/-- A loop of writers, `offset += x.Serialize(buffer + offset)`. -/
def each {α : Type*} (w : α → Writer) : List α → Writer
  | [] => fun buffer _ => .ok (buffer, 0)
  | x :: xs => (w x).andThen (each w xs)

/-- The writer puts these bytes over as many others. -/
def Writes (w : Writer) (bytes : List UInt8) : Prop :=
  ∀ a old z : List UInt8, old.length = bytes.length →
    w (a ++ (old ++ z)) a.length = .ok (a ++ (bytes ++ z), bytes.length)

theorem writes_put (bytes : List UInt8) : Writes (put bytes) bytes := by
  intro a old z hlen
  rw [put, write_append hlen, Checked.ok_bind]

/-- Behind a part of the buffer that is written already. -/
theorem Writes.behind {w : Writer} {bytes : List UInt8} (h : Writes w bytes) (a : List UInt8)
    (rest : List UInt8) (hfit : bytes.length ≤ rest.length) :
    w (a ++ rest) a.length = .ok (a ++ (bytes ++ rest.drop bytes.length), bytes.length) := by
  have hlen : (rest.take bytes.length).length = bytes.length := by
    rw [List.length_take]
    omega
  have hw := h a (rest.take bytes.length) (rest.drop bytes.length) hlen
  rwa [List.take_append_drop] at hw

/-- At the start of the buffer. -/
theorem Writes.start {w : Writer} {bytes : List UInt8} (h : Writes w bytes) (buffer : List UInt8)
    (hfit : bytes.length ≤ buffer.length) :
    w buffer 0 = .ok (bytes ++ buffer.drop bytes.length, bytes.length) :=
  h.behind [] buffer hfit

/-- One writer after another. -/
theorem Writes.andThen {v w : Writer} {bytes more : List UInt8} (hv : Writes v bytes)
    (hw : Writes w more) : Writes (v.andThen w) (bytes ++ more) := by
  intro a old z hlen
  rw [List.length_append] at hlen
  have hfirst : (old.take bytes.length).length = bytes.length := by
    rw [List.length_take]
    omega
  have hsecond : (old.drop bytes.length).length = more.length := by
    rw [List.length_drop]
    omega
  have hv' := hv a (old.take bytes.length) (old.drop bytes.length ++ z) hfirst
  have hw' := hw (a ++ bytes) (old.drop bytes.length) z hsecond
  rw [← List.append_assoc (old.take _), List.take_append_drop] at hv'
  rw [List.length_append, List.append_assoc] at hw'
  rw [Writer.andThen, hv', Checked.ok_bind]
  dsimp only
  rw [hw', Checked.ok_bind, List.length_append, List.append_assoc, List.append_assoc]

/-- The bytes of a writer are no others. -/
theorem Writes.unique {w : Writer} {bytes more : List UInt8} (h : Writes w bytes) (h' : Writes w more) :
    bytes = more := by
  have hfit := h.start (List.replicate (bytes.length + more.length) 0)
    (by rw [List.length_replicate]; omega)
  have hfit' := h'.start (List.replicate (bytes.length + more.length) 0)
    (by rw [List.length_replicate]; omega)
  obtain ⟨hbytes, hlen⟩ := Prod.mk.inj (Except.ok.inj (hfit.symm.trans hfit'))
  exact (List.append_inj hbytes hlen).1

/-- A loop of writers that returns has called each of them. -/
theorem exists_ok_of_each {α : Type*} {w : α → Writer} {xs : List α} {buffer : List UInt8}
    {offset : Nat} {result : List UInt8 × Nat} (h : each w xs buffer offset = .ok result) {x : α}
    (hx : x ∈ xs) : ∃ buffer offset result, w x buffer offset = .ok result := by
  induction xs generalizing buffer offset result with
  | nil => exact absurd hx List.not_mem_nil
  | cons y ys ih =>
      obtain ⟨⟨buffer', m⟩, hfirst, h⟩ := Checked.bind_eq_ok.1 h
      obtain ⟨rest, hrest, -⟩ := Checked.bind_eq_ok.1 h
      rcases List.mem_cons.1 hx with rfl | hx
      · exact ⟨buffer, offset, _, hfirst⟩
      · exact ih hrest hx

theorem writes_each_nil {α : Type*} (w : α → Writer) : Writes (each w []) [] := by
  intro a old z hlen
  rw [List.length_eq_zero_iff.1 hlen]
  rfl

/-- A loop of writers whose bytes are known. -/
theorem writes_each_mem {α : Type*} {w : α → Writer} {bytes : α → List UInt8} {xs : List α}
    (h : ∀ x ∈ xs, Writes (w x) (bytes x)) : Writes (each w xs) (xs.flatMap bytes) := by
  induction xs with
  | nil => exact writes_each_nil w
  | cons x xs ih =>
      obtain ⟨hx, hxs⟩ := List.forall_mem_cons.1 h
      rw [List.flatMap_cons]
      exact hx.andThen (ih hxs)

/-- A writer for each element. -/
theorem writes_each {α : Type*} {w : α → Writer} {bytes : α → List UInt8}
    (h : ∀ x, Writes (w x) (bytes x)) (xs : List α) : Writes (each w xs) (xs.flatMap bytes) :=
  writes_each_mem fun x _ => h x

/-! ## The space of a writer -/

/-- The writer puts `n` bytes, and does not return when they do not fit the buffer. -/
def Within (w : Writer) (n : Nat) : Prop :=
  ∀ buffer offset buffer' m, w buffer offset = .ok (buffer', m) →
    m = n ∧ offset + n ≤ buffer.length ∧ buffer'.length = buffer.length

theorem within_put (bytes : List UInt8) : Within (put bytes) bytes.length := by
  intro buffer offset buffer' m h
  obtain ⟨result, hwrite, h⟩ := Checked.bind_eq_ok.1 h
  cases h
  exact ⟨rfl, (write_eq_ok.1 hwrite).1, length_write hwrite⟩

/-- The bounds of two writers add up. -/
theorem Within.andThen {v w : Writer} {m n : Nat} (hv : Within v m) (hw : Within w n) :
    Within (v.andThen w) (m + n) := by
  intro buffer offset buffer' k h
  obtain ⟨⟨buffer₁, m'⟩, hfirst, h⟩ := Checked.bind_eq_ok.1 h
  obtain ⟨⟨buffer₂, n'⟩, hsecond, h⟩ := Checked.bind_eq_ok.1 h
  cases h
  obtain ⟨rfl, -, hlen₁⟩ := hv _ _ _ _ hfirst
  obtain ⟨rfl, hfit, hlen₂⟩ := hw _ _ _ _ hsecond
  refine ⟨rfl, ?_, hlen₂.trans hlen₁⟩
  omega

theorem within_each {α : Type*} {w : α → Writer} {n : Nat} (h : ∀ x, Within (w x) n) {x : α}
    {xs : List α} : Within (each w (x :: xs)) (n * (xs.length + 1)) := by
  induction xs generalizing x with
  | nil =>
      intro buffer offset buffer' m hw
      obtain ⟨⟨buffer₁, m'⟩, hfirst, hw⟩ := Checked.bind_eq_ok.1 hw
      cases hw
      obtain ⟨rfl, hfit, hlen⟩ := h x _ _ _ _ hfirst
      exact ⟨by simp, by simpa using hfit, hlen⟩
  | cons y ys ih =>
      rw [List.length_cons, Nat.mul_succ, Nat.add_comm]
      exact (h x).andThen ih

end Writer

end Bytes
