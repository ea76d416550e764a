import KoreWebsocket.Rtp.SendBuffer

/-!
# What a NACK item is answered with (`RtpStreamSend::RequestRtpRetransmission`)

The loop over the 17 numbers of an item shares one iterator over the buffer, and the numbers are moved by a
cycle when they are not in the range of the buffer. In a buffer that spans less than a cycle, this comes to
one pass that hands out every packet that is asked for, is not too old and was not resent in the last round
trip (`request_exact`).
-/

namespace KoreWebsocket.Rtp

namespace RtpStreamSend

/-! ## One pass over the buffer -/

/-- Whether the loop looks for the number of an item: it is the next one, or that of a set bit. -/
def asksFor (requested : Bool) (bitmask : UInt16) (seq32 : UInt32) (item : BufferItem) : Bool :=
  (decide (item.key = seq32.toNat) && requested) ||
    (decide (seq32.toNat < item.key) && bitmask.toNat.testBit (item.key - seq32.toNat - 1))

/-- Whether an item is to be resent. -/
def resends (s : RtpStreamSend) (now : UInt64) (item : BufferItem) : Bool :=
  match s.judge now item with
  | .ok .resend => true
  | _ => false

/-- What the loop hands out. -/
def due (s : RtpStreamSend) (now : UInt64) (requested : Bool) (bitmask : UInt16) (seq32 : UInt32)
    (item : BufferItem) : Bool :=
  asksFor requested bitmask seq32 item && s.resends now item

/-- An item with the time at which it is resent, if it is one of the given ones. -/
def mark (now : UInt64) (due : BufferItem → Bool) (item : BufferItem) : BufferItem :=
  if due item then { item with resentAtTime := now } else item

/-- The pass: the items that are due are marked, and their packets are put into the container. -/
structure Serves (now : UInt64) (due : BufferItem → Bool) (search search' : Search) : Prop where
  items : search'.items = search.passed ++ search.rest.map (mark now due)
  filled : Filled search search' ((search.rest.filter due).map (·.clone))

section
variable {s : RtpStreamSend} {now : UInt64} {requested : Bool} {bitmask : UInt16} {seq32 : UInt32}
  {item : BufferItem} {search search' : Search} {container : Container}

/-- Without a clock rate the age is not computed. -/
theorem judge_eq_error (h : s.clockRate = 0) (now : UInt64) (item : BufferItem) :
    s.judge now item = .error (.assertion "division by zero") := by
  have hage : s.age item.clone = .error (.assertion "division by zero") := by
    rw [age, Bytes.ensure, if_neg (not_not.2 h)]
    rfl
  rw [judge, hage]
  rfl

/-- The only fault of the verdict is a clock rate of zero. -/
theorem clockRate_of_judge {f : Bytes.Fault} (h : s.judge now item = .error f) :
    s.clockRate = 0 ∧ f = .assertion "division by zero" := by
  rcases eq_or_ne s.clockRate 0 with hzero | hne
  · rw [judge_eq_error hzero] at h
    cases h
    exact ⟨hzero, rfl⟩
  · rw [judge, age, Bytes.ensure, if_pos hne] at h
    cases h

/-- A packet is sent again if that is the verdict. -/
theorem resends_of_judge {verdict : Verdict} (h : s.judge now item = .ok verdict) :
    s.resends now item = decide (verdict = .resend) := by
  rw [resends, h]
  cases verdict <;> rfl

/-- The first number is asked for if it is requested. -/
theorem asksFor_self (h : item.seq32 = seq32) : asksFor requested bitmask seq32 item = requested := by
  rw [asksFor, BufferItem.key, h, decide_eq_true rfl, decide_eq_false (Nat.lt_irrefl _), Bool.true_and,
    Bool.false_and, Bool.or_false]

/-- A smaller number is not asked for. -/
theorem asksFor_smaller (h : item.key < seq32.toNat) : asksFor requested bitmask seq32 item = false := by
  rw [asksFor, decide_eq_false h.ne, decide_eq_false h.asymm]
  rfl

/-- Behind the next number, the loop looks for what it looks for with the bits shifted. -/
theorem asksFor_larger (hseq : seq32.toNat + 1 < 2 ^ 32) (h : seq32.toNat < item.key) :
    asksFor requested bitmask seq32 item =
      asksFor (bitmask &&& 1 ≠ 0) (bitmask >>> 1) (seq32 + 1) item := by
  rw [asksFor, asksFor, toNat_add_one hseq, toNat_shiftRight_one, decide_and_one, decide_eq_false h.ne',
    decide_eq_true h, Bool.false_and, Bool.false_or, Bool.true_and]
  rcases Nat.eq_or_lt_of_le (Nat.succ_le_of_lt h) with heq | hlt
  · rw [← heq, Nat.succ_eq_add_one, Nat.add_sub_cancel_left, decide_eq_true rfl,
      decide_eq_false (Nat.lt_irrefl _), Bool.true_and, Bool.false_and, Bool.or_false]
  · obtain ⟨i, hi⟩ := Nat.exists_eq_add_of_lt hlt
    have hindex : item.key - seq32.toNat - 1 = i + 1 := by omega
    have hindex' : item.key - (seq32.toNat + 1) - 1 = i := by omega
    rw [hindex, hindex', decide_eq_false hlt.ne', decide_eq_true hlt, Nat.testBit_add_one]
    rfl

/-- The next number is asked for by the lowest bit of the mask. -/
theorem due_next (hseq : seq32.toNat + 1 < 2 ^ 32) (h : seq32.toNat < item.key) :
    s.due now requested bitmask seq32 item =
      s.due now (bitmask &&& 1 ≠ 0) (bitmask >>> 1) (seq32 + 1) item := by
  rw [due, due, asksFor_larger hseq h]

/-- A smaller number is not due. -/
theorem due_smaller (h : item.key < seq32.toNat) : s.due now requested bitmask seq32 item = false := by
  rw [due, asksFor_smaller h, Bool.false_and]

/-- What is sent again is marked with the time. -/
theorem mark_of_due {due : BufferItem → Bool} (h : due item = true) :
    mark now due item = { item with resentAtTime := now } := if_pos h

/-- What is not stays as it is. -/
theorem mark_of_not_due {due : BufferItem → Bool} (h : due item = false) : mark now due item = item :=
  if_neg (Bool.eq_false_iff.1 h)

/-- Where nothing is due, nothing is marked. -/
theorem map_mark_of_not_due {due : BufferItem → Bool} {l : List BufferItem}
    (h : ∀ a ∈ l, due a = false) : l.map (mark now due) = l :=
  calc l.map (mark now due) = l.map id := List.map_congr_left fun a ha => mark_of_not_due (h a ha)
    _ = l := List.map_id l

/-- Where nothing is due, nothing is sent. -/
theorem filter_of_not_due {due : BufferItem → Bool} {l : List BufferItem} (h : ∀ a ∈ l, due a = false) :
    l.filter due = [] :=
  List.filter_eq_nil_iff.2 fun a ha => Bool.eq_false_iff.1 (h a ha)

/-- A pass over items none of which is due. -/
theorem Serves.nothing {due : BufferItem → Bool} (h : ∀ a ∈ search.rest, due a = false) :
    Serves now due search search := by
  refine ⟨?_, ?_⟩
  · rw [map_mark_of_not_due h, Search.items]
  · rw [filter_of_not_due h]
    exact .same rfl rfl

/-- A pass that goes on: it has gone over the items in front, and has come to those here. -/
theorem Serves.next {due due' : BufferItem → Bool} {front here back : List BufferItem} {search₁ : Search}
    (hrest : search.rest = front ++ (here ++ back)) (hpassed : search₁.passed = search.passed ++ front)
    (hrest₁ : search₁.rest = here.map (mark now due) ++ back)
    (hfilled : Filled search search₁ ((here.filter due).map (·.clone)))
    (hfront : ∀ a ∈ front, due a = false) (hhere : ∀ a ∈ here.map (mark now due), due' a = false)
    (hback : ∀ a ∈ back, due a = due' a) (h : Serves now due' search₁ search') :
    Serves now due search search' := by
  have hmap : back.map (mark now due) = back.map (mark now due') :=
    List.map_congr_left fun a ha => by rw [mark, mark, hback a ha]
  constructor
  · rw [h.items, hpassed, hrest₁, hrest, List.map_append, map_mark_of_not_due hhere, List.map_append,
      map_mark_of_not_due hfront, List.map_append, hmap, List.append_assoc]
  · have hmore := hfilled.trans h.filled
    rw [hrest₁, List.filter_append, filter_of_not_due hhere, List.nil_append, ← List.map_append,
      ← List.filter_congr hback] at hmore
    rw [hrest, List.filter_append, filter_of_not_due hfront, List.nil_append, List.filter_append]
    exact hmore

/-- What the loop over the requested numbers comes to: a pass, or a division by 0 for the age of a packet
that is asked for. -/
inductive Passes (s : RtpStreamSend) (now : UInt64) (fuel : Nat) (requested : Bool) (bitmask : UInt16)
    (seq32 : UInt32) (search : Search) : Except Bytes.Fault Search → Prop
  | serves {search' : Search} (hserves : Serves now (s.due now requested bitmask seq32) search search')
      (hindex : search'.containerIdx ≤ search.containerIdx + fuel) :
      Passes s now fuel requested bitmask seq32 search (.ok search')
  | divides {item : BufferItem} (hclockRate : s.clockRate = 0) (hitem : item ∈ search.rest)
      (hasks : asksFor requested bitmask seq32 item = true) :
      Passes s now fuel requested bitmask seq32 search (.error (.assertion "division by zero"))

/-- A round of the loop: the number is looked for if it is requested, and the mask moves on. -/
theorem lookForAll_succ {fuel : Nat} (h : (requested || bitmask ≠ 0) = true) :
    s.lookForAll now (fuel + 1) requested bitmask seq32 search =
      (if requested then s.lookFor now seq32 search else .ok search).bind fun search =>
        s.lookForAll now fuel (bitmask &&& 1 ≠ 0) (bitmask >>> 1) (seq32 + 1) search := by
  rw [lookForAll, if_pos h]
  rfl

/-- Nothing is asked for when no bit is left. -/
theorem asksFor_none (h : ¬ (requested || bitmask ≠ 0) = true) (item : BufferItem) :
    asksFor requested bitmask seq32 item = false := by
  rw [Bool.or_eq_true, not_or, decide_eq_true_eq, not_not, Bool.not_eq_true] at h
  rw [asksFor, h.1, h.2, UInt16.toNat_zero, Nat.zero_testBit, Bool.and_false, Bool.and_false]
  rfl

/-- A number that is not requested is gone over. -/
theorem asksFor_skip (hseq : seq32.toNat + 1 < 2 ^ 32) (bitmask : UInt16) :
    asksFor false bitmask seq32 = asksFor (bitmask &&& 1 ≠ 0) (bitmask >>> 1) (seq32 + 1) := by
  funext item
  rcases Nat.lt_trichotomy item.key seq32.toNat with hlt | heq | hgt
  · rw [asksFor_smaller hlt, asksFor_smaller]
    rw [toNat_add_one hseq]
    exact Nat.lt_succ_of_lt hlt
  · rw [asksFor_self (UInt32.toNat_inj.1 heq), asksFor_smaller]
    rw [toNat_add_one hseq]
    exact Nat.lt_succ_of_le heq.le
  · exact asksFor_larger hseq hgt

/-- The loop goes on behind the items in front, and those here, which have the number. -/
theorem Passes.next {fuel : Nat} {front back : List BufferItem} (here : List BufferItem)
    {search₁ : Search} {r : Except Bytes.Fault Search} (hseq : seq32.toNat + 1 < 2 ^ 32)
    (hrest : search.rest = front ++ (here ++ back)) (hpassed : search₁.passed = search.passed ++ front)
    (hrest₁ : search₁.rest = here.map (mark now (s.due now requested bitmask seq32)) ++ back)
    (hfilled : Filled search search₁ ((here.filter (s.due now requested bitmask seq32)).map (·.clone)))
    (hindex : search₁.containerIdx ≤ search.containerIdx + 1) (hfront : ∀ a ∈ front, a.seq32 < seq32)
    (hhere : ∀ a ∈ here, a.seq32 = seq32) (hback : ∀ a ∈ back, seq32 < a.seq32)
    (h : Passes s now fuel (bitmask &&& 1 ≠ 0) (bitmask >>> 1) (seq32 + 1) search₁ r) :
    Passes s now (fuel + 1) requested bitmask seq32 search r := by
  have hgone : ∀ a ∈ here.map (mark now (s.due now requested bitmask seq32)),
      a.key < (seq32 + 1).toNat := by
    intro a ha
    obtain ⟨item, hitem, rfl⟩ := List.mem_map.1 ha
    have hsame : (mark now (s.due now requested bitmask seq32) item).seq32 = item.seq32 := by
      unfold mark
      split <;> rfl
    rw [toNat_add_one hseq, BufferItem.key, hsame, hhere item hitem]
    exact Nat.lt_succ_self _
  cases h with
  | serves hserves hle =>
      refine .serves (hserves.next hrest hpassed hrest₁ hfilled (fun a ha => due_smaller (hfront a ha))
        (fun a ha => due_smaller (hgone a ha)) fun a ha => due_next hseq (hback a ha)) ?_
      omega
  | divides hclockRate hitem hasks =>
      rw [hrest₁] at hitem
      rcases List.mem_append.1 hitem with hitem | hitem
      · rw [asksFor_smaller (hgone _ hitem)] at hasks
        cases hasks
      · rw [← asksFor_larger hseq (hback _ hitem)] at hasks
        refine .divides hclockRate ?_ hasks
        rw [hrest]
        exact List.mem_append_right _ (List.mem_append_right _ hitem)

/-- The loop goes on when a number is not requested. -/
theorem Passes.skip {fuel : Nat} {r : Except Bytes.Fault Search} (hseq : seq32.toNat + 1 < 2 ^ 32)
    (h : Passes s now fuel (bitmask &&& 1 ≠ 0) (bitmask >>> 1) (seq32 + 1) search r) :
    Passes s now (fuel + 1) false bitmask seq32 search r := by
  have hasks := asksFor_skip hseq bitmask
  have hdue : s.due now false bitmask seq32 =
      s.due now (bitmask &&& 1 ≠ 0) (bitmask >>> 1) (seq32 + 1) := by
    funext item
    rw [due, due, hasks]
  cases h with
  | serves hserves hle =>
      rw [← hdue] at hserves
      exact .serves hserves (hle.trans (Nat.le_succ _))
  | divides hclockRate hitem hasked =>
      rw [← hasks] at hasked
      exact .divides hclockRate hitem hasked

/-- The buffer is in order, so its first number is the smallest. -/
theorem forall_lt_of_head {l : List BufferItem} (hsorted : l.Pairwise fun a b => a.key < b.key)
    (h : ∀ a ∈ l.head?, seq32 < a.seq32) : ∀ a ∈ l, seq32 < a.seq32 := by
  intro a ha
  cases l with
  | nil => cases ha
  | cons first rest =>
      have hfirst : seq32.toNat < first.key := UInt32.lt_iff_toNat_lt.1 (h first rfl)
      rcases List.mem_cons.1 ha with rfl | ha
      · exact hfirst
      · exact hfirst.trans ((List.pairwise_cons.1 hsorted).1 a ha)

/-- The loop ends when nothing more is asked for. -/
theorem Passes.nothing {fuel : Nat} (h : ¬ (requested || bitmask ≠ 0) = true) :
    Passes s now fuel requested bitmask seq32 search (.ok search) := by
  refine .serves (.nothing fun a _ => ?_) (Nat.le_add_right _ _)
  rw [due, asksFor_none h, Bool.false_and]

/-- The loop goes on from what it finds for a number that is requested. -/
theorem Passes.found {fuel : Nat} {r : Except Bytes.Fault Search}
    {go : Search → Except Bytes.Fault Search} (hseq : seq32.toNat + 1 < 2 ^ 32)
    (hroom : search.containerIdx < search.container.length)
    (hsorted : search.rest.Pairwise fun a b => a.key < b.key) (hfound : Found s now seq32 search r)
    (hgo : ∀ search₁ : Search, search₁.containerIdx ≤ search.containerIdx + 1 →
      search₁.container.length = search.container.length →
      (search₁.rest.Pairwise fun a b => a.key < b.key) →
      Passes s now fuel (bitmask &&& 1 ≠ 0) (bitmask >>> 1) (seq32 + 1) search₁ (go search₁)) :
    Passes s now (fuel + 1) true bitmask seq32 search (r.bind go) := by
  cases hfound with
  | @absent front back hrest hfront hback =>
      rw [hrest] at hsorted
      have hsorted := (List.pairwise_append.1 hsorted).2.1
      refine .next [] hseq hrest ?_ ?_ ?_ ?_ hfront nofun ?_ (hgo _ (Nat.le_succ _) rfl hsorted)
      · rfl
      · rfl
      · exact .same rfl rfl
      · exact Nat.le_succ _
      · exact forall_lt_of_head hsorted hback
  | @refused front back item verdict hrest hfront heq hjudge hne =>
      rw [hrest] at hsorted
      have hsorted := (List.pairwise_append.1 hsorted).2.1
      have hdue : s.due now true bitmask seq32 item = false := by
        rw [due, resends_of_judge hjudge, decide_eq_false hne, Bool.and_false]
      refine .next [item] hseq hrest ?_ ?_ ?_ ?_ hfront ?_ ?_ (hgo _ (Nat.le_succ _) rfl hsorted)
      · rfl
      · rw [List.map_singleton, mark_of_not_due hdue, List.singleton_append]
      · rw [List.filter_singleton, hdue]
        exact .same rfl rfl
      · exact Nat.le_succ _
      · exact List.forall_mem_singleton.2 heq
      · rw [← heq]
        exact fun a ha => (List.pairwise_cons.1 hsorted).1 a ha
  | @resent front back item container hrest hfront heq hjudge hput =>
      rw [hrest] at hsorted
      have hsorted := List.pairwise_cons.1 (List.pairwise_append.1 hsorted).2.1
      have hdue : s.due now true bitmask seq32 item = true := by
        rw [due, resends_of_judge hjudge, asksFor_self heq]
        rfl
      obtain ⟨-, hcontainer⟩ := put_eq_ok hput
      refine .next [item] hseq hrest ?_ ?_ ?_ ?_ hfront ?_ ?_ (hgo _ (Nat.le_refl _) ?_ ?_)
      · rfl
      · rw [List.map_singleton, mark_of_due hdue, List.singleton_append]
      · rw [List.filter_singleton, hdue]
        exact .put hput rfl rfl
      · exact Nat.le_refl _
      · exact List.forall_mem_singleton.2 heq
      · rw [← heq]
        exact fun a ha => hsorted.1 a ha
      · rw [hcontainer, List.length_set]
      · exact List.pairwise_cons.2 hsorted
  | overwrites hput =>
      rw [Container.put, if_pos hroom] at hput
      cases hput
  | divides hrest heq hjudge =>
      obtain ⟨hclockRate, rfl⟩ := clockRate_of_judge hjudge
      refine .divides hclockRate ?_ (asksFor_self heq)
      rw [hrest]
      exact List.mem_append_right _ List.mem_cons_self

/-- **The shared iterator.** In a buffer whose numbers are strictly increasing, the loop over the requested
numbers comes to one pass. -/
theorem lookForAll_passes {fuel : Nat} (hbits : 2 * bitmask.toNat + requested.toNat < 2 ^ fuel)
    (hroom : search.containerIdx + fuel < search.container.length) (hseq : seq32.toNat + fuel < 2 ^ 32)
    (hsorted : search.rest.Pairwise fun a b => a.key < b.key) :
    Passes s now fuel requested bitmask seq32 search
      (s.lookForAll now fuel requested bitmask seq32 search) := by
  induction fuel generalizing requested bitmask seq32 search with
  | zero =>
      have hstop : ¬ (requested || bitmask ≠ 0) = true := by
        have hmask : bitmask.toNat = 0 := by omega
        have hrequested : requested.toNat = 0 := by omega
        rw [UInt16.toNat_inj.1 (hmask.trans UInt16.toNat_zero.symm), Bool.toNat_eq_zero.1 hrequested]
        decide
      rw [lookForAll, if_neg hstop]
      exact .nothing hstop
  | succ fuel ih =>
      rcases Bool.eq_false_or_eq_true (requested || bitmask ≠ 0) with hmore | hstop
      case inr =>
        rw [lookForAll, if_neg (Bool.eq_false_iff.1 hstop)]
        exact .nothing (Bool.eq_false_iff.1 hstop)
      case inl =>
        have hlt : seq32.toNat + 1 < 2 ^ 32 := by omega
        have hbits' : 2 * (bitmask >>> 1).toNat + (decide (bitmask &&& 1 ≠ 0)).toNat < 2 ^ fuel := by
          rw [toNat_shiftRight_one, decide_and_one, Nat.toNat_testBit, Nat.pow_zero, Nat.div_one]
          rw [Nat.pow_succ] at hbits
          omega
        have hseq' : (seq32 + 1).toNat + fuel < 2 ^ 32 := by
          rw [toNat_add_one hlt]
          omega
        have hgo : ∀ search₁ : Search, search₁.containerIdx ≤ search.containerIdx + 1 →
            search₁.container.length = search.container.length →
            (search₁.rest.Pairwise fun a b => a.key < b.key) →
            Passes s now fuel (bitmask &&& 1 ≠ 0) (bitmask >>> 1) (seq32 + 1) search₁
              (s.lookForAll now fuel (bitmask &&& 1 ≠ 0) (bitmask >>> 1) (seq32 + 1) search₁) := by
          intro search₁ hindex hlength hsorted
          exact ih hbits' (by omega) hseq' hsorted
        rw [lookForAll_succ hmore]
        cases requested with
        | false => exact .skip hlt (hgo search (Nat.le_succ _) rfl hsorted)
        | true => exact .found hlt (by omega) hsorted (lookFor_found s now seq32 search) hgo

end

/-! ## The range -/

/-- The number of the newest packet, in 32 bits. -/
def newestSeq32 (s : RtpStreamSend) : Nat := s.stream.cycles.toNat + s.stream.maxSeq.toNat

/-- The items are in strict order, and a requested range that overlaps the buffer does so in one cycle. -/
structure InRange (s : RtpStreamSend) : Prop where
  sorted : s.buffer.Pairwise fun a b => a.key < b.key
  newest_lt : s.newestSeq32 < 2 ^ 32 - rtpSeqMod
  newest_sub_lt : ∀ item ∈ s.buffer, s.newestSeq32 < item.key + (rtpSeqMod - maxRequestedPackets)
  le_newest : ∀ item ∈ s.buffer, item.key ≤ s.newestSeq32

section
variable {s : RtpStreamSend} {seq bitmask n : UInt16} {seq32 firstSeq32 lastSeq32 : UInt32}

/-- A request is outside if it begins behind the last packet or ends before the first. -/
theorem isOutside_iff (h : seq32.toNat + maxRequestedPackets < 2 ^ 32) :
    isOutside seq32 firstSeq32 lastSeq32 = true ↔
      lastSeq32.toNat < seq32.toNat ∨ seq32.toNat + 16 < firstSeq32.toNat := by
  have hrange : (seq32 + UInt32.ofNat maxRequestedPackets - 1).toNat = seq32.toNat + 16 := by
    have hconst : UInt32.ofNat maxRequestedPackets - 1 = 16 := by decide
    have hadd : seq32 + UInt32.ofNat maxRequestedPackets - 1 = seq32 + 16 := by
      rw [UInt32.sub_eq_add_neg, UInt32.add_assoc, ← UInt32.sub_eq_add_neg, hconst]
    have hsixteen : (16 : UInt32).toNat = 16 := rfl
    rw [maxRequestedPackets] at h
    rw [hadd, UInt32.toNat_add, hsixteen]
    omega
  rw [isOutside, Bool.or_eq_true, decide_eq_true_eq, decide_eq_true_eq, UInt32.lt_iff_toNat_lt,
    UInt32.lt_iff_toNat_lt, hrange]

/-- **The first number that is looked for.** It is in the cycle of the requested packets, or there are none
in the buffer. -/
theorem firstRequested_cases (haligned : s.stream.cycles.toNat % rtpSeqMod = 0)
    (hnewest : s.newestSeq32 < 2 ^ 32 - rtpSeqMod)
    (hfirst : s.newestSeq32 < firstSeq32.toNat + (rtpSeqMod - maxRequestedPackets))
    (hlast : lastSeq32.toNat ≤ s.newestSeq32) (hseq : 0 < s.stream.cycles ∨ seq ≤ s.stream.maxSeq) :
    (∃ base, s.firstRequested seq firstSeq32 lastSeq32 = some base ∧
      base.toNat + maxRequestedPackets < 2 ^ 32 ∧
      ∀ v k, firstSeq32.toNat ≤ v → v ≤ lastSeq32.toNat → k ≤ 16 →
        (v % rtpSeqMod = (seq.toNat + k) % rtpSeqMod ↔ v = base.toNat + k)) ∨
    (s.firstRequested seq firstSeq32 lastSeq32 = none ∧
      ∀ v k, firstSeq32.toNat ≤ v → v ≤ lastSeq32.toNat → k ≤ 16 →
        v % rtpSeqMod ≠ (seq.toNat + k) % rtpSeqMod) := by
  have hseqlt := seq.toNat_lt
  have hmaxlt := s.stream.maxSeq.toNat_lt
  rw [newestSeq32] at *
  simp only [rtpSeqMod, maxRequestedPackets] at *
  have hcycle : (seq.toUInt32 + s.stream.cycles).toNat = seq.toNat + s.stream.cycles.toNat := by
    rw [UInt32.toNat_add, UInt16.toNat_toUInt32]
    omega
  have hpos : 0 < s.stream.cycles ↔ 0 < s.stream.cycles.toNat := UInt32.lt_iff_toNat_lt
  have hle : seq ≤ s.stream.maxSeq ↔ seq.toNat ≤ s.stream.maxSeq.toNat := UInt16.le_iff_toNat_le
  rw [hpos, hle] at hseq
  have hout := @isOutside_iff (seq.toUInt32 + s.stream.cycles) firstSeq32 lastSeq32
    (by rw [hcycle, maxRequestedPackets]; omega)
  rw [hcycle] at hout
  unfold firstRequested
  dsimp only
  split
  case isFalse hin =>
    rw [hout] at hin
    refine .inl ⟨_, rfl, ?_, fun v k hv hv' hk => ?_⟩ <;> rw [hcycle] <;> omega
  case isTrue hoff =>
    rw [hout] at hoff
    split
    case isFalse hzero =>
      rw [gt_iff_lt, hpos] at hzero
      refine .inr ⟨rfl, fun v k hv hv' hk => ?_⟩
      omega
    case isTrue hcycles =>
      rw [gt_iff_lt, hpos] at hcycles
      have hback : (seq.toUInt32 + s.stream.cycles - UInt32.ofNat 65536).toNat =
          seq.toNat + s.stream.cycles.toNat - 65536 := by
        have hmod : (UInt32.ofNat 65536).toNat = 65536 := rfl
        rw [UInt32.toNat_sub_of_le, hcycle, hmod]
        rw [UInt32.le_iff_toNat_le, hcycle, hmod]
        omega
      have hout' := @isOutside_iff (seq.toUInt32 + s.stream.cycles - UInt32.ofNat 65536) firstSeq32 lastSeq32
        (by rw [hback, maxRequestedPackets]; omega)
      rw [hback] at hout'
      split
      case isTrue hoff' =>
        rw [rtpSeqMod, hout'] at hoff'
        refine .inr ⟨rfl, fun v k hv hv' hk => ?_⟩
        omega
      case isFalse hin' =>
        rw [rtpSeqMod, hout'] at hin'
        refine .inl ⟨_, rfl, ?_, fun v k hv hv' hk => ?_⟩ <;> rw [rtpSeqMod, hback] <;> omega

/-- A number is requested as the first, or by a bit of the mask. -/
theorem requested_iff {v : Nat} (hn : n.toNat = v % rtpSeqMod) :
    n ∈ Rtcp.requestedSeqs seq bitmask ↔ v % rtpSeqMod = (seq.toNat + 0) % rtpSeqMod ∨
      ∃ i < 16, bitmask.toNat.testBit i = true ∧ v % rtpSeqMod = (seq.toNat + (i + 1)) % rtpSeqMod := by
  have hseqlt := seq.toNat_lt
  have hfirst : n = seq ↔ v % rtpSeqMod = (seq.toNat + 0) % rtpSeqMod := by
    rw [← UInt16.toNat_inj, hn, rtpSeqMod]
    omega
  have hbit : ∀ i < 16, n = seq + 1 + UInt16.ofNat i ↔
      v % rtpSeqMod = (seq.toNat + (i + 1)) % rtpSeqMod := by
    intro i hi
    have hone : (1 : UInt16).toNat = 1 := rfl
    rw [← UInt16.toNat_inj, hn, UInt16.toNat_add, UInt16.toNat_add, UInt16.toNat_ofNat', hone, rtpSeqMod]
    omega
  rw [Rtcp.mem_requestedSeqs, hfirst]
  refine or_congr_right (exists_congr fun i => and_congr_right fun hi => and_congr_right fun _ => hbit i hi)

/-- In the right cycle, the loop looks for the numbers that are requested. -/
theorem asksFor_iff {item : BufferItem} (hn : n.toNat = item.key % rtpSeqMod)
    (hcycle : ∀ k ≤ 16,
      item.key % rtpSeqMod = (seq.toNat + k) % rtpSeqMod ↔ item.key = seq32.toNat + k) :
    asksFor true bitmask seq32 item = true ↔ n ∈ Rtcp.requestedSeqs seq bitmask := by
  rw [requested_iff hn, hcycle 0 (Nat.zero_le _), asksFor, Bool.or_eq_true, Bool.and_true, Bool.and_eq_true,
    decide_eq_true_eq, decide_eq_true_eq]
  refine or_congr_right ⟨fun ⟨hlt, hbit⟩ => ?_, fun ⟨i, hi, hbit, heq⟩ => ?_⟩
  · have hi := lt_of_testBit hbit
    exact ⟨_, hi, hbit, (hcycle _ (by omega)).2 (by omega)⟩
  · rw [hcycle _ (by omega)] at heq
    have hindex : item.key - seq32.toNat - 1 = i := by omega
    rw [hindex]
    exact ⟨by omega, hbit⟩

end

/-! ## What a request is answered with -/

end RtpStreamSend

/-- The packet was marked in the last `rtt` milliseconds. -/
def BufferItem.ResentWithin (item : BufferItem) (rtt : UInt32) (now : UInt64) : Prop :=
  item.resentAtTime ≠ 0 ∧ item.resentAtTime.toNat ≤ now.toNat ∧
    now.toNat < item.resentAtTime.toNat + rtt.toNat

instance (item : BufferItem) (rtt : UInt32) (now : UInt64) : Decidable (item.ResentWithin rtt now) :=
  inferInstanceAs (Decidable (_ ∧ _ ∧ _))

namespace RtpStreamSend

/-- The packet of an item is one of those that are requested. -/
def Requested (s : RtpStreamSend) (seq bitmask : UInt16) (item : BufferItem) : Prop :=
  (s.packetOf item.clone).getSequenceNumber ∈ Rtcp.requestedSeqs seq bitmask

/-- What a request is to be answered with: the packets that are requested, are not too old, and were not
resent in the last round trip. -/
def Wanted (s : RtpStreamSend) (seq bitmask : UInt16) (now : UInt64) (item : BufferItem) : Prop :=
  s.Requested seq bitmask item ∧ (∃ diff ∈ (s.age item.clone).toOption, diff ≤ maxRetransmissionAge) ∧
    ¬ item.ResentWithin s.requestRtt now

instance (s : RtpStreamSend) (seq bitmask : UInt16) (now : UInt64) (item : BufferItem) :
    Decidable (s.Wanted seq bitmask now item) :=
  inferInstanceAs (Decidable (_ ∈ _ ∧ (∃ diff ∈ _, _) ∧ _))

section
variable {s : RtpStreamSend} {seq bitmask : UInt16} {now : UInt64} {item : BufferItem}

/-- In its first 2 ^ 32 milliseconds, the clock fits into the variable. -/
theorem isAlreadyResent_iff (h : item.resentAtTime.toNat < 2 ^ 32) :
    s.isAlreadyResent now item = true ↔ item.ResentWithin s.requestRtt now := by
  have hnarrow : item.resentAtTime.toUInt32.toNat = item.resentAtTime.toNat := by
    rw [UInt64.toNat_toUInt32, Nat.mod_eq_of_lt h]
  have hzero : item.resentAtTime.toUInt32 ≠ 0 ↔ item.resentAtTime ≠ 0 := by
    rw [ne_eq, ne_eq, ← UInt32.toNat_inj, ← UInt64.toNat_inj, hnarrow]
    rfl
  have hnowlt := now.toNat_lt
  have hrttlt := s.requestRtt.toNat_lt
  rw [isAlreadyResent, Bool.and_eq_true, decide_eq_true_eq, decide_eq_true_eq, hzero,
    BufferItem.ResentWithin, UInt64.lt_iff_toNat_lt, UInt64.toNat_sub, UInt32.toNat_toUInt64,
    UInt32.toNat_toUInt64, hnarrow]
  refine and_congr_right fun _ => ?_
  omega

/-- The verdict on a packet of this age. -/
theorem judge_of_age {diff : UInt32} (h : s.age item.clone = .ok diff) :
    s.judge now item = .ok (if diff > maxRetransmissionAge then .tooOld
      else if s.isAlreadyResent now item then .alreadyResent else .resend) := by
  rw [judge, h]
  rfl

/-- What is resent. -/
theorem judge_eq_resend_iff : s.judge now item = .ok .resend ↔
    (∃ diff ∈ (s.age item.clone).toOption, diff ≤ maxRetransmissionAge) ∧
      ¬ s.isAlreadyResent now item = true := by
  cases hage : s.age item.clone with
  | error f =>
      rw [judge, hage]
      exact ⟨nofun, fun ⟨⟨_, hmem, _⟩, _⟩ => nomatch hmem⟩
  | ok diff =>
      have hmem : (∃ d ∈ (Except.ok diff : Except Bytes.Fault UInt32).toOption, d ≤ maxRetransmissionAge) ↔
          ¬ diff > maxRetransmissionAge := by
        rw [gt_iff_lt, UInt32.not_lt]
        exact ⟨fun ⟨_, heq, hle⟩ => Option.some.inj heq ▸ hle, fun hle => ⟨diff, rfl, hle⟩⟩
      rw [judge_of_age hage, hmem]
      split
      case isTrue hold => exact ⟨nofun, fun h => absurd hold h.1⟩
      case isFalse hrecent =>
        split
        case isTrue hresent => exact ⟨nofun, fun h => absurd hresent h.2⟩
        case isFalse hnot => exact ⟨fun _ => ⟨hrecent, hnot⟩, fun _ => rfl⟩

/-- A packet is sent again just when it is neither too old nor sent already. -/
theorem resends_iff : s.resends now item = true ↔ s.judge now item = .ok .resend := by
  cases hjudge : s.judge now item with
  | error f =>
      rw [resends, hjudge]
      exact ⟨nofun, nofun⟩
  | ok verdict =>
      rw [resends_of_judge hjudge, decide_eq_true_eq]
      exact ⟨congrArg Except.ok, Except.ok.inj⟩

/-- The 16 bits of a packet's number. -/
theorem Kept.getSequenceNumber (h : Kept s) (hitem : item ∈ s.buffer) :
    (s.packetOf item.clone).getSequenceNumber.toNat = item.key % rtpSeqMod := by
  have hsource := (h.cloned item hitem).getSequenceNumber
  rw [BufferItem.key, h.seq item hitem, ← hsource, packetOf, h.held item hitem]

end

/-- The answer to a request: the packets that are wanted are handed out, each once and in the order of their
numbers, up to a null entry, and they are marked. -/
structure Answers (s : RtpStreamSend) (seq bitmask : UInt16) (now : UInt64) (s' : RtpStreamSend)
    (container' : Container) : Prop where
  handed : container'.Holds ((s.buffer.filter (s.Wanted seq bitmask now ·)).map (·.clone))
  length_le : (s.buffer.filter (s.Wanted seq bitmask now ·)).length ≤ maxRequestedPackets
  sorted : (s.buffer.filter (s.Wanted seq bitmask now ·)).Pairwise fun a b => a.key < b.key
  marked : s' = { s with buffer := s.buffer.map (mark now (s.Wanted seq bitmask now ·)) }

section
variable {s s' : RtpStreamSend} {seq bitmask : UInt16} {now : UInt64} {container : Container}

/-- A request that is for no packet of the buffer. -/
theorem Answers.nothing (hcontainer : 0 < container.length)
    (h : ∀ item ∈ s.buffer, ¬ s.Wanted seq bitmask now item) :
    Answers s seq bitmask now s (container.set 0 none) := by
  have hnone : ∀ item ∈ s.buffer, decide (s.Wanted seq bitmask now item) = false := fun item hitem =>
    decide_eq_false (h item hitem)
  exact {
    handed := by
      rw [filter_of_not_due hnone]
      exact ⟨rfl, List.getElem?_set_self hcontainer⟩
    length_le := by
      rw [filter_of_not_due hnone]
      exact Nat.zero_le _
    sorted := by
      rw [filter_of_not_due hnone]
      exact .nil
    marked := by
      rw [map_mark_of_not_due hnone] }

/-- A pass over the items that are wanted. -/
theorem Serves.answers {due : BufferItem → Bool} {search' : Search} {container₁ : Container}
    (hsorted : s.buffer.Pairwise fun a b => a.key < b.key)
    (hdue : ∀ item ∈ s.buffer, due item = decide (s.Wanted seq bitmask now item))
    (h : Serves now due { passed := [], rest := s.buffer, container } search')
    (hindex : search'.containerIdx ≤ maxRequestedPackets)
    (hput : search'.container.put search'.containerIdx none = .ok container₁) :
    Answers s seq bitmask now { s with buffer := search'.passed ++ search'.rest } container₁ := by
  obtain ⟨hlt, rfl⟩ := put_eq_ok hput
  have hfilter : s.buffer.filter due = s.buffer.filter (s.Wanted seq bitmask now ·) :=
    List.filter_congr hdue
  have hfilled : search'.containerIdx = (s.buffer.filter (s.Wanted seq bitmask now ·)).length := by
    rw [h.filled.index, hfilter, List.length_map, Nat.zero_add]
  exact {
    handed := by
      rw [← hfilter]
      have hlength : search'.containerIdx = ((s.buffer.filter due).map (·.clone)).length := by
        rw [hfilled, hfilter, List.length_map]
      refine ⟨?_, ?_⟩
      · rw [← hlength, List.take_set_of_le (Nat.le_refl _), h.filled.take]
        rfl
      · rw [← hlength]
        exact List.getElem?_set_self hlt
    length_le := by
      rw [← hfilled]
      exact hindex
    sorted := hsorted.filter _
    marked := by
      have hitems : search'.passed ++ search'.rest = s.buffer.map (mark now due) := h.items
      have hmap : s.buffer.map (mark now due) =
          s.buffer.map (mark now (s.Wanted seq bitmask now ·)) :=
        List.map_congr_left fun item hitem => by rw [mark, mark, hdue item hitem]
      rw [hitems, hmap] }

/-- The first and the last number of a sorted buffer. -/
theorem between_first_last {l : List BufferItem} {first last item : BufferItem}
    (hsorted : l.Pairwise fun a b => a.key < b.key) (hfirst : l.head? = some first)
    (hlast : l.getLast? = some last) (hitem : item ∈ l) : first.key ≤ item.key ∧ item.key ≤ last.key := by
  have hle : l.Pairwise fun a b => a.key ≤ b.key := hsorted.imp Nat.le_of_lt
  have hne : l ≠ [] := List.ne_nil_of_mem hitem
  cases (List.head?_eq_some_head hne).symm.trans hfirst
  cases (List.getLast?_eq_some_getLast hne).symm.trans hlast
  exact ⟨hle.rel_head_of_rel_head_head hitem le_rfl, hle.rel_getLast_of_rel_getLast_getLast hitem le_rfl⟩

/-- A request of a stream that has packets. -/
theorem requestRtpRetransmission_eq (hnack : s.useNack = true) {first last : BufferItem}
    (hfirst : s.buffer.head? = some first) (hlast : s.buffer.getLast? = some last)
    (hcontainer : maxRequestedPackets < container.length) :
    s.requestRtpRetransmission seq bitmask container now =
      match s.firstRequested seq first.seq32 last.seq32 with
      | none => .ok (s, container.set 0 none)
      | some firstSeq32 =>
          (s.lookForAll now maxRequestedPackets true bitmask firstSeq32
            { passed := [], rest := s.buffer, container := container.set 0 none }).bind fun search =>
              (search.container.put search.containerIdx none).bind fun container =>
                .ok ({ s with buffer := search.passed ++ search.rest }, container) := by
  have hput : container.put 0 none = .ok (container.set 0 none) := if_pos (Nat.zero_lt_of_lt hcontainer)
  have hroom : maxRequestedPackets ≤ (container.set 0 none).length - 1 := by
    rw [List.length_set]
    omega
  rw [requestRtpRetransmission, hput]
  change (if (!s.useNack) = true then _ else _) = _
  rw [hnack, hfirst, hlast]
  change ((Bytes.ensure (maxRequestedPackets ≤ (container.set 0 none).length - 1) _).bind _) = _
  rw [Bytes.ensure, if_pos hroom]
  rfl

/-- An item is due for the numbers of a request if it is wanted. -/
theorem due_eq_wanted {item : BufferItem} {base : UInt32} (hresent : item.resentAtTime.toNat < 2 ^ 32)
    (hasks : asksFor true bitmask base item = true ↔ s.Requested seq bitmask item) :
    s.due now true bitmask base item = decide (s.Wanted seq bitmask now item) := by
  rw [Bool.eq_iff_iff, decide_eq_true_eq, due, Bool.and_eq_true, hasks, resends_iff,
    judge_eq_resend_iff, isAlreadyResent_iff hresent]
  exact Iff.rfl

/-- **A request is answered**, or its first packet's age is a division by 0. -/
theorem Kept.request_answered (hkept : Kept s)
    (hresent : ∀ item ∈ s.buffer, item.resentAtTime.toNat < 2 ^ 32) (hnack : s.useNack = true)
    (hrange : s.InRange) (hcontainer : maxRequestedPackets < container.length)
    (hseq : 0 < s.stream.cycles ∨ seq ≤ s.stream.maxSeq) :
    (∃ s' container', s.requestRtpRetransmission seq bitmask container now = .ok (s', container') ∧
      Answers s seq bitmask now s' container') ∨
    (s.clockRate = 0 ∧ (∃ item ∈ s.buffer, s.Requested seq bitmask item) ∧
      s.requestRtpRetransmission seq bitmask container now =
        .error (.assertion "division by zero")) := by
  have hpos : 0 < container.length := Nat.zero_lt_of_lt hcontainer
  cases hfirst : s.buffer.head? with
  | none =>
      have hnil : s.buffer = [] := List.head?_eq_none_iff.1 hfirst
      refine .inl ⟨s, container.set 0 none, ?_, .nothing hpos fun item hitem => ?_⟩
      · rw [requestRtpRetransmission, Container.put, if_pos hpos, hnil]
        change (if (!s.useNack) = true then _ else _) = _
        rw [hnack]
        rfl
      · rw [hnil] at hitem
        cases hitem
  | some first =>
      have hmem : first ∈ s.buffer := List.mem_of_mem_head? hfirst
      have hne : s.buffer ≠ [] := List.ne_nil_of_mem hmem
      have hlast := List.getLast?_eq_some_getLast hne
      have hbetween := fun item => @between_first_last s.buffer first _ item hrange.sorted hfirst hlast
      rw [requestRtpRetransmission_eq hnack hfirst hlast hcontainer]
      rcases firstRequested_cases hkept.aligned.cycles hrange.newest_lt
        (hrange.newest_sub_lt first hmem) (hrange.le_newest _ (List.getLast_mem hne)) hseq with
        ⟨base, hbase, hbaselt, hcycle⟩ | ⟨hnone, hno⟩
      · rw [hbase]
        dsimp only
        have hasks : ∀ item ∈ s.buffer,
            (asksFor true bitmask base item = true ↔ s.Requested seq bitmask item) := by
          intro item hitem
          obtain ⟨hle, hle'⟩ := hbetween item hitem
          exact asksFor_iff (hkept.getSequenceNumber hitem) fun k hk => hcycle item.key k hle hle' hk
        have hdue : ∀ item ∈ s.buffer,
            s.due now true bitmask base item = decide (s.Wanted seq bitmask now item) :=
          fun item hitem => due_eq_wanted (hresent item hitem) (hasks item hitem)
        have hbits : 2 * bitmask.toNat + true.toNat < 2 ^ maxRequestedPackets := by
          have hlt := bitmask.toNat_lt
          rw [maxRequestedPackets, Bool.toNat_true]
          omega
        have hroom : 0 + maxRequestedPackets < (container.set 0 none).length := by
          rwa [List.length_set, Nat.zero_add]
        have hpasses := @lookForAll_passes s now true bitmask base
          { passed := [], rest := s.buffer, container := container.set 0 none } _ hbits hroom hbaselt
          hrange.sorted
        generalize s.lookForAll now maxRequestedPackets true bitmask base _ = r at hpasses
        cases hpasses with
        | @serves search' hserves hindex =>
            rw [Nat.zero_add] at hindex hroom
            have hput : search'.container.put search'.containerIdx none =
                .ok (search'.container.set search'.containerIdx none) := by
              refine if_pos (hindex.trans_lt ?_)
              rw [hserves.filled.length]
              exact hroom
            refine .inl ⟨_, _, ?_, hserves.answers hrange.sorted hdue hindex hput⟩
            change (search'.container.put search'.containerIdx none).bind _ = _
            rw [hput]
            rfl
        | divides hclockRate hitem hasked =>
            exact .inr ⟨hclockRate, ⟨_, hitem, (hasks _ hitem).1 hasked⟩, rfl⟩
      · rw [hnone]
        refine .inl ⟨s, _, rfl, .nothing hpos fun item hitem hwanted => ?_⟩
        obtain ⟨hle, hle'⟩ := hbetween item hitem
        rcases (requested_iff (hkept.getSequenceNumber hitem)).1 hwanted.1 with hzero | ⟨i, hi, -, heq⟩
        · exact hno item.key 0 hle hle' (Nat.zero_le _) hzero
        · exact hno item.key (i + 1) hle hle' (Nat.succ_le_of_lt hi) heq

end

end RtpStreamSend

/-- A request comes in the first 2 ^ 32 milliseconds of the clock. -/
def SendEvent.Early : SendEvent → Prop
  | .request _ _ _ now => now.toNat < 2 ^ 32
  | .packet .. | .receiverReport _ => True

instance : (e : SendEvent) → Decidable e.Early
  | .request _ _ _ now => inferInstanceAs (Decidable (now.toNat < 2 ^ 32))
  | .packet .. | .receiverReport _ => isTrue trivial

namespace RtpStreamSend

instance (s : RtpStreamSend) : Decidable s.InRange :=
  decidable_of_iff ((s.buffer.Pairwise fun a b => a.key < b.key) ∧ s.newestSeq32 < 2 ^ 32 - rtpSeqMod ∧
    (∀ item ∈ s.buffer, s.newestSeq32 < item.key + (rtpSeqMod - maxRequestedPackets)) ∧
    ∀ item ∈ s.buffer, item.key ≤ s.newestSeq32)
    ⟨fun ⟨h₁, h₂, h₃, h₄⟩ => ⟨h₁, h₂, h₃, h₄⟩, fun ⟨h₁, h₂, h₃, h₄⟩ => ⟨h₁, h₂, h₃, h₄⟩⟩

section
variable {s t : RtpStreamSend} {seq bitmask : UInt16} {now : UInt64} {container : Container}

/-- The times at which packets were resent fit into 32 bits. -/
theorem resent_lt_step (h : ∀ item ∈ s.buffer, item.resentAtTime.toNat < 2 ^ 32) {e : SendEvent}
    (he : e.Early) (hstep : s.step e = some t) : ∀ item ∈ t.buffer, item.resentAtTime.toNat < 2 ^ 32 := by
  intro item hitem
  cases e with
  | packet behind packet now =>
      obtain ⟨⟨u, accepted⟩, hu, rfl⟩ := Option.map_eq_some_iff.1 hstep
      rcases (mem_receivePacket (Checked.toOption_eq_some.1 hu)).2 item hitem with hitem | hnew
      · exact h item hitem
      · rw [hnew.resent]
        decide
  | receiverReport rtt =>
      cases hstep
      exact h item hitem
  | request seq bitmask container now =>
      obtain ⟨⟨u, container'⟩, hu, rfl⟩ := Option.map_eq_some_iff.1 hstep
      obtain ⟨handed, hhands, -, -⟩ := requestRtpRetransmission_hands (Checked.toOption_eq_some.1 hu)
      rcases hhands.mem hitem with hitem | ⟨-, hmarked⟩
      · exact h item hitem
      · rw [hmarked]
        exact he

/-- **Retransmission lookup.** In every state of a run whose buffer is in range, a request fills the
container with the packets that are requested, are not too old and were not resent in the last round trip,
each once and in the order of their numbers, with a null entry behind them, and marks these packets. The
age of a packet is a division by the clock rate. -/
theorem request_exact {clockRate : UInt32} {useNack : Bool} {bufferSize : Nat} {events : List SendEvent}
    (hrun : Machine.exec RtpStreamSend.step (new clockRate useNack bufferSize) events = some s)
    (hclock : ∀ e ∈ events, e.Early) (hnack : s.useNack = true) (hrange : s.InRange)
    (hcontainer : maxRequestedPackets < container.length)
    (hseq : 0 < s.stream.cycles ∨ seq ≤ s.stream.maxSeq) :
    (∃ s' container', s.requestRtpRetransmission seq bitmask container now = .ok (s', container') ∧
      Answers s seq bitmask now s' container') ∨
    (s.clockRate = 0 ∧ (∃ item ∈ s.buffer, s.Requested seq bitmask item) ∧
      s.requestRtpRetransmission seq bitmask container now =
        .error (.assertion "division by zero")) := by
  refine (kept_run hrun).request_answered ?_ hnack hrange hcontainer hseq
  exact Machine.exec_inv_of_meets (I := fun s => ∀ item ∈ s.buffer, item.resentAtTime.toNat < 2 ^ 32)
    (fun _ _ _ h he hstep => resent_lt_step h he hstep)
    (Machine.meets_of_forall (fun e he _ => hclock e he) _) hrun nofun

/-- A request for the packets around the wrap of the numbers; the last but one was resent already. -/
theorem request_exact_wrap : ∃ s s' container', Machine.exec RtpStreamSend.step (new 90000 true 4)
    [.packet 0 (mediaPacket 65534 0) 1, .packet 0 (mediaPacket 65535 0) 2, .packet 0 (mediaPacket 0 0) 3,
      .packet 0 (mediaPacket 1 0) 4, .request 0 0 (List.replicate 18 none) 5] = some s ∧
    s.requestRtpRetransmission 65534 7 (List.replicate 18 none) 10 = .ok (s', container') ∧
    Answers s 65534 7 10 s' container' ∧
    (s.buffer.filter (s.Wanted 65534 7 10 ·)).map (·.seq32) = [65534, 65535, 65537] := by
  have hrun : (Machine.exec RtpStreamSend.step (new 90000 true 4)
      [.packet 0 (mediaPacket 65534 0) 1, .packet 0 (mediaPacket 65535 0) 2, .packet 0 (mediaPacket 0 0) 3,
        .packet 0 (mediaPacket 1 0) 4, .request 0 0 (List.replicate 18 none) 5]).map
      (fun s => (decide (s.InRange ∧ s.useNack = true ∧ 0 < s.stream.cycles ∧ s.clockRate ≠ 0),
        (s.buffer.filter (s.Wanted 65534 7 10 ·)).map (·.seq32))) = some (true, [65534, 65535, 65537]) := by
    decide +kernel
  obtain ⟨s, hs, hfacts⟩ := Option.map_eq_some_iff.1 hrun
  obtain ⟨hfacts, hwanted⟩ := Prod.mk.inj hfacts
  obtain ⟨hrange, hnack, hcycles, hclockRate⟩ := of_decide_eq_true hfacts
  rcases @request_exact s 65534 7 10 (List.replicate 18 none) 90000 true 4 _ hs (by decide) hnack hrange
    (by decide) (.inl hcycles) with ⟨s', container', hok, hanswers⟩ | ⟨hzero, -⟩
  · exact ⟨s, s', container', hs, hok, hanswers, hwanted⟩
  · exact absurd hzero hclockRate

end

end RtpStreamSend

end KoreWebsocket.Rtp
