import Mathlib
import KoreWebsocket.Channel.Letters

/-!
# Every channel request is completed exactly once

`WF` is the invariant of the channel: the ids and the timers of the pending letters are distinct,
a pending letter's soup bears its id and its timer is armed unless its callback is running, and a
request has had its callback exactly when it is no longer pending or its callback is running. It
is kept by every event (`WF.step`), for any nesting of callbacks, so it holds along every run.
-/

namespace KoreWebsocket.Channel

open Machine

/-! ## Reading the state after an update -/

namespace Chan

@[simp] theorem setSoup_letters (st : Chan) (s : Nat) (v : Soup) :
    (st.setSoup s v).letters = st.letters := rfl
@[simp] theorem setSoup_timers (st : Chan) (s : Nat) (v : Soup) :
    (st.setSoup s v).timers = st.timers := rfl
@[simp] theorem setSoup_issued (st : Chan) (s : Nat) (v : Soup) :
    (st.setSoup s v).issued = st.issued := rfl
@[simp] theorem setSoup_stack (st : Chan) (s : Nat) (v : Soup) :
    (st.setSoup s v).stack = st.stack := rfl
@[simp] theorem setSoup_calls (st : Chan) (s : Nat) (v : Soup) :
    (st.setSoup s v).calls = st.calls := rfl

@[simp] theorem setSoup_self (st : Chan) (s : Nat) (v : Soup) :
    (st.setSoup s v).soups s = v := Function.update_self _ _ _

/-- Writing a soup changes the id of that soup only. -/
theorem setSoup_id (st : Chan) (s : Nat) (v : Soup) (x : Nat) :
    ((st.setSoup s v).soups x).id = if x = s then v.id else (st.soups x).id := by
  by_cases h : x = s
  · subst h; simp [setSoup]
  · simp [setSoup, h]

/-- A write that keeps the soup's own id changes no id. -/
theorem setSoup_id_of_eq (st : Chan) {s : Nat} {v : Soup} (h : v.id = (st.soups s).id) (x : Nat) :
    ((st.setSoup s v).soups x).id = (st.soups x).id := by
  rw [setSoup_id]
  split
  · next hx => rw [h, hx]
  · rfl

/-- An error does not change the id. -/
theorem setError_id (st : Chan) (s : Nat) (msg : String) (x : Nat) :
    ((st.setError s msg).soups x).id = (st.soups x).id := by
  refine st.setSoup_id_of_eq ?_ x
  rfl

end Chan

/-- The number of callback invocations a request has had. -/
def Chan.callCount (st : Chan) (r : Nat) : Nat := st.calls.countP (·.1 == r)

theorem Chan.callCount_cons {st st' : Chan} {i : Nat} {o : Outcome}
    (hc : st'.calls = (i, o) :: st.calls) (r : Nat) :
    st'.callCount r = st.callCount r + if r = i then 1 else 0 := by
  rw [callCount, hc, List.countP_cons, callCount]
  by_cases h : r = i
  · simp [h]
  · simp [h, Ne.symm h]

/-- The request is on the list `letters`. -/
def Chan.Pending (st : Chan) (r : Nat) : Prop := ∃ p ∈ st.letters, p.timer = r

/-- The request's timer is armed. -/
def Chan.Armed (st : Chan) (r : Nat) : Prop := ∃ t ∈ st.timers, t.handle = r

/-- The request's callback is running, possibly below other callbacks. -/
def Chan.Running (st : Chan) (r : Nat) : Prop := ∃ f ∈ st.stack, f.req = r

/-- The code after a callback calls no other. -/
theorem Frame.resume_stack (st : Chan) (f : Frame) : (f.resume st).stack = st.stack := by
  cases f with
  | timeout s r => simp only [Frame.resume]; split <;> rfl
  | invoke du => rfl
  | sendFailed s r => rfl

/-- The code after a callback writes no soup but its own. -/
theorem Frame.resume_soups (st : Chan) (f : Frame) {x : Nat} (hx : x ≠ f.soup) :
    (f.resume st).soups x = st.soups x := by
  cases f with
  | timeout s r =>
      simp only [Frame.resume]
      split
      · rfl
      · exact Function.update_of_ne hx _ _
  | invoke du => exact Function.update_of_ne hx _ _
  | sendFailed s r => exact Function.update_of_ne hx _ _

/-! ## The invariant -/

/-- What a suspended call relies on when its callback returns. -/
def FrameOK (st : Chan) : Frame → Prop
  | .timeout s r => (∃ p ∈ st.letters, p.timer = r ∧ p.soupi = s) ∧ ¬ st.Armed r
  | .invoke du => du ∈ st.letters
  | .sendFailed s r =>
      (st.soups s).id ≠ 0 ∧ (∀ p ∈ st.letters, p.soupi ≠ s ∧ p.timer ≠ r) ∧ r < st.issued

/-- The invariant of the channel. -/
structure WF (st : Chan) : Prop where
  ids : (st.letters.map Postman.id).Nodup
  ids_ne_zero : ∀ p ∈ st.letters, p.id ≠ 0
  handles : (st.letters.map Postman.timer).Nodup
  handles_lt : ∀ p ∈ st.letters, p.timer < st.issued
  soup_id : ∀ p ∈ st.letters, (st.soups p.soupi).id = p.id
  timer_letter : ∀ t ∈ st.timers, ∃ p ∈ st.letters, p.timer = t.handle ∧ p.soupi = t.arg
  armed : ∀ p ∈ st.letters, ¬ st.Running p.timer → st.Armed p.timer
  frames : ∀ f ∈ st.stack, FrameOK st f
  frame_soups : (st.stack.map Frame.soup).Nodup
  calls_lt : ∀ r, st.issued ≤ r → st.callCount r = 0
  calls_one : ∀ r < st.issued, (st.Pending r → st.Running r) → st.callCount r = 1
  calls_zero : ∀ r, st.Pending r → ¬ st.Running r → st.callCount r = 0

/-- The channel before any request: `channel_new`, over any soups `soup_init` has initialised. -/
def IsInit (st : Chan) : Prop :=
  (∀ s, (st.soups s).id = 0) ∧ st.letters = [] ∧ st.timers = [] ∧ st.issued = 0 ∧
    st.stack = [] ∧ st.calls = []

/-- A channel without letters is well formed. -/
theorem IsInit.wf {st : Chan} (h : IsInit st) : WF st := by
  obtain ⟨-, h1, h2, h3, h4, h5⟩ := h
  constructor <;> simp [h1, h2, h3, h4, h5, Chan.callCount, Chan.Pending]

section
variable {st st' : Chan}

/-- Two pending letters with one timer are the same. -/
theorem WF.letter_inj (h : WF st) {p q : Postman} (hp : p ∈ st.letters) (hq : q ∈ st.letters)
    (hpq : p.timer = q.timer) : p = q :=
  List.inj_on_of_nodup_map h.handles hp hq hpq

/-- Two pending letters of one soup are the same: the soup bears the id of both. -/
theorem WF.letter_soup_inj (h : WF st) {p q : Postman} (hp : p ∈ st.letters)
    (hq : q ∈ st.letters) (hpq : p.soupi = q.soupi) : p = q :=
  List.inj_on_of_nodup_map h.ids hp hq (by rw [← h.soup_id p hp, ← h.soup_id q hq, hpq])

/-- The soup of a suspended call bears an id, so no request can be sent on it. -/
theorem WF.frame_id_ne_zero (h : WF st) {f : Frame} (hf : f ∈ st.stack) :
    (st.soups f.soup).id ≠ 0 := by
  have hok := h.frames f hf
  cases f with
  | timeout s r =>
      obtain ⟨⟨p, hp, -, rfl⟩, -⟩ := hok
      show (st.soups p.soupi).id ≠ 0
      rw [h.soup_id p hp]; exact h.ids_ne_zero p hp
  | invoke du =>
      show (st.soups du.soupi).id ≠ 0
      rw [h.soup_id du hok]; exact h.ids_ne_zero du hok
  | sendFailed s r => exact hok.1

/-- The request of a suspended call has been issued. -/
theorem WF.frame_lt (h : WF st) {f : Frame} (hf : f ∈ st.stack) : f.req < st.issued := by
  have hok := h.frames f hf
  cases f with
  | timeout s r => obtain ⟨⟨p, hp, rfl, -⟩, -⟩ := hok; exact h.handles_lt p hp
  | invoke du => exact h.handles_lt du hok
  | sendFailed s r => exact hok.2.2

/-- A suspended call that still has its letter is the only one on its soup, so the letter's soup
is the frame's. -/
theorem WF.frame_letter (h : WF st) {f : Frame} (hf : f ∈ st.stack) {p : Postman}
    (hp : p ∈ st.letters) (hr : f.req = p.timer) : p.soupi = f.soup := by
  have hok := h.frames f hf
  cases f with
  | timeout s r =>
      obtain ⟨⟨q, hq, hqt, rfl⟩, -⟩ := hok
      rw [h.letter_inj hp hq (hr.symm.trans hqt.symm)]; rfl
  | invoke du => rw [h.letter_inj hp hok hr.symm]; rfl
  | sendFailed s r => exact absurd hr.symm (hok.2.1 p hp).2

/-! ## The steps keep the invariant -/

/-- Writing soups without changing an id keeps the invariant. -/
theorem WF.of_ids (h : WF st) (hl : st'.letters = st.letters) (ht : st'.timers = st.timers)
    (hi : st'.issued = st.issued) (hs : st'.stack = st.stack) (hc : st'.calls = st.calls)
    (hid : ∀ x, (st'.soups x).id = (st.soups x).id) : WF st' := by
  have hp : ∀ r, st'.Pending r ↔ st.Pending r := fun r => by rw [Chan.Pending, hl]; rfl
  have ha : ∀ r, st'.Armed r ↔ st.Armed r := fun r => by rw [Chan.Armed, ht]; rfl
  have hr : ∀ r, st'.Running r ↔ st.Running r := fun r => by rw [Chan.Running, hs]; rfl
  have hn : ∀ r, st'.callCount r = st.callCount r := fun r => by
    rw [Chan.callCount, Chan.callCount, hc]
  constructor <;> simp only [hl, ht, hi, hs, hid, hp, ha, hr, hn]
  · exact h.ids
  · exact h.ids_ne_zero
  · exact h.handles
  · exact h.handles_lt
  · exact h.soup_id
  · exact h.timer_letter
  · exact h.armed
  · intro f hf
    have := h.frames f hf
    cases f with
    | timeout s r => exact ⟨by rw [hl]; exact this.1, by rw [ha]; exact this.2⟩
    | invoke du => show du ∈ st'.letters; rw [hl]; exact this
    | sendFailed s r =>
        exact ⟨by rw [hid]; exact this.1, by rw [hl]; exact this.2.1, by rw [hi]; exact this.2.2⟩
  · exact h.frame_soups
  · exact h.calls_lt
  · exact h.calls_one
  · exact h.calls_zero

/-- Calling the callback of a pending request that is not running: the event loop is idle, so the
new frame is the only one. Only the request's own timer may be disarmed. -/
theorem WF.call (h : WF st) (hs : st.stack = []) {p : Postman} (hp : p ∈ st.letters) {f : Frame}
    {o : Outcome} (hr : f.req = p.timer) (hl : st'.letters = st.letters)
    (hi : st'.issued = st.issued)
    (ht : ∀ t, t ∈ st'.timers → t ∈ st.timers)
    (ht' : ∀ t ∈ st.timers, t.handle ≠ p.timer → t ∈ st'.timers)
    (hst : st'.stack = [f]) (hc : st'.calls = (f.req, o) :: st.calls)
    (hid : ∀ x, (st'.soups x).id = (st.soups x).id) (hok : FrameOK st' f) : WF st' := by
  have hnr : ∀ r, ¬ st.Running r := fun r => by simp [Chan.Running, hs]
  have hpend : ∀ r, st'.Pending r ↔ st.Pending r := fun r => by rw [Chan.Pending, hl]; rfl
  have hrun : ∀ r, st'.Running r ↔ r = p.timer := fun r => by
    simp only [Chan.Running, hst, List.mem_singleton, exists_eq_left, hr]; exact eq_comm
  have hn : ∀ r, st'.callCount r = st.callCount r + if r = p.timer then 1 else 0 := fun r => by
    rw [← hr]; exact Chan.callCount_cons hc r
  have hpp : st.Pending p.timer := ⟨p, hp, rfl⟩
  exact {
    ids := by
      rw [hl]
      exact h.ids
    ids_ne_zero := by
      rw [hl]
      exact h.ids_ne_zero
    handles := by
      rw [hl]
      exact h.handles
    handles_lt := by
      rw [hl, hi]
      exact h.handles_lt
    soup_id := by
      rw [hl]
      intro q hq
      rw [hid]
      exact h.soup_id q hq
    timer_letter := by
      rw [hl]
      exact fun t htm => h.timer_letter t (ht t htm)
    armed := by
      rw [hl]
      intro q hq hnq
      rw [hrun] at hnq
      obtain ⟨t, htm, hte⟩ := h.armed q hq (hnr _)
      exact ⟨t, ht' t htm (hte ▸ hnq), hte⟩
    frames := by
      rw [hst]
      intro g hg
      rw [List.mem_singleton.1 hg]
      exact hok
    frame_soups := by
      rw [hst]
      exact List.nodup_singleton _
    calls_lt := by
      intro r hlt
      rw [hn, if_neg, h.calls_lt r (hi ▸ hlt)]
      have := h.handles_lt p hp
      rw [hi] at hlt; omega
    calls_one := by
      intro r hlt hpr
      rw [hn]
      rw [hpend, hrun] at hpr
      by_cases hrp : r = p.timer
      · rw [if_pos hrp, hrp, h.calls_zero _ hpp (hnr _)]
      · rw [if_neg hrp, Nat.add_zero]
        exact h.calls_one r (hi ▸ hlt) fun hpd => absurd (hpr hpd) hrp
    calls_zero := by
      intro r hpr hnr'
      rw [hpend] at hpr
      rw [hrun] at hnr'
      rw [hn, if_neg hnr', Nat.add_zero]
      exact h.calls_zero r hpr (hnr _) }

/-- Completing the request on top of the stack while its letter is still pending: the letter and
the timer go, and the soup's id is cleared. -/
theorem WF.complete (h : WF st) {f : Frame} {rest : List Frame} (hs : st.stack = f :: rest)
    {p : Postman} (hp : p ∈ st.letters) (hr : f.req = p.timer)
    (hl : st'.letters = st.letters.filter (·.timer != p.timer))
    (ht : ∀ t, t ∈ st'.timers ↔ t ∈ st.timers ∧ t.handle ≠ p.timer)
    (hi : st'.issued = st.issued) (hst : st'.stack = rest) (hc : st'.calls = st.calls)
    (hid : ∀ x, (st'.soups x).id = if x = f.soup then 0 else (st.soups x).id) : WF st' := by
  have hf : f ∈ st.stack := by rw [hs]; exact .head _
  have hps : p.soupi = f.soup := h.frame_letter hf hp hr
  have hmem : ∀ q, q ∈ st'.letters ↔ q ∈ st.letters ∧ q.timer ≠ p.timer := fun q => by
    rw [hl, List.mem_filter, bne_iff_ne]
  have hsub : st'.letters.Sublist st.letters := by rw [hl]; exact List.filter_sublist
  have hnd := h.frame_soups
  rw [hs, List.map_cons, List.nodup_cons] at hnd
  have hrest : ∀ g ∈ rest, g.soup ≠ f.soup := fun g hg he =>
    hnd.1 (he ▸ List.mem_map_of_mem hg)
  have hne : ∀ g ∈ rest, g.req ≠ p.timer := fun g hg he =>
    hrest g hg (by
      rw [← h.frame_letter (by rw [hs]; exact .tail _ hg) hp he, hps])
  have hpend : ∀ r, st'.Pending r ↔ st.Pending r ∧ r ≠ p.timer := fun r => by
    constructor
    · rintro ⟨q, hq, rfl⟩; exact ⟨⟨q, ((hmem q).1 hq).1, rfl⟩, ((hmem q).1 hq).2⟩
    · rintro ⟨⟨q, hq, rfl⟩, hn⟩; exact ⟨q, (hmem q).2 ⟨hq, hn⟩, rfl⟩
  have hrun : ∀ r, r ≠ p.timer → (st'.Running r ↔ st.Running r) := fun r hn => by
    rw [Chan.Running, Chan.Running, hst, hs]
    simp only [List.mem_cons, exists_eq_or_imp, hr, Ne.symm hn, false_or]
  have hcnt : ∀ r, st'.callCount r = st.callCount r := fun r => by
    rw [Chan.callCount, Chan.callCount, hc]
  exact {
    ids := (hsub.map _).nodup h.ids
    ids_ne_zero := fun q hq => h.ids_ne_zero q ((hmem q).1 hq).1
    handles := (hsub.map _).nodup h.handles
    handles_lt := by
      intro q hq
      rw [hi]
      exact h.handles_lt q ((hmem q).1 hq).1
    soup_id := by
      intro q hq
      obtain ⟨hq1, hq2⟩ := (hmem q).1 hq
      rw [hid, if_neg, h.soup_id q hq1]
      intro he
      exact hq2 (congrArg Postman.timer (h.letter_soup_inj hq1 hp (he.trans hps.symm)))
    timer_letter := by
      intro t htm
      obtain ⟨ht1, ht2⟩ := (ht t).1 htm
      obtain ⟨q, hq, hqt, hqs⟩ := h.timer_letter t ht1
      exact ⟨q, (hmem q).2 ⟨hq, hqt ▸ ht2⟩, hqt, hqs⟩
    armed := by
      intro q hq hnq
      obtain ⟨hq1, hq2⟩ := (hmem q).1 hq
      rw [hrun _ hq2] at hnq
      obtain ⟨t, ht1, ht2⟩ := h.armed q hq1 hnq
      exact ⟨t, (ht t).2 ⟨ht1, ht2 ▸ hq2⟩, ht2⟩
    frames := by
      rw [hst]
      intro g hg
      have hok := h.frames g (by rw [hs]; exact .tail _ hg)
      have hgr := hne g hg
      cases g with
      | timeout s r =>
          obtain ⟨⟨q, hq, hqt, hqs⟩, hna⟩ := hok
          refine ⟨⟨q, (hmem q).2 ⟨hq, by rw [hqt]; exact hgr⟩, hqt, hqs⟩, ?_⟩
          rintro ⟨t, ht1, ht2⟩
          exact hna ⟨t, ((ht t).1 ht1).1, ht2⟩
      | invoke du => exact (hmem du).2 ⟨hok, hgr⟩
      | sendFailed s r =>
          refine ⟨?_, fun q hq => hok.2.1 q ((hmem q).1 hq).1, by rw [hi]; exact hok.2.2⟩
          rw [hid, if_neg (show s ≠ f.soup from hrest _ hg)]
          exact hok.1
    frame_soups := by
      rw [hst]
      exact hnd.2
    calls_lt := by
      intro r hlt
      rw [hcnt]
      exact h.calls_lt r (hi ▸ hlt)
    calls_one := by
      intro r hlt hpr
      rw [hcnt]
      by_cases hrp : r = p.timer
      · exact h.calls_one r (hi ▸ hlt) fun _ => ⟨f, hf, hr.trans hrp.symm⟩
      · refine h.calls_one r (hi ▸ hlt) fun hpd => ?_
        exact (hrun r hrp).1 (hpr ((hpend r).2 ⟨hpd, hrp⟩))
    calls_zero := by
      intro r hpr hnr
      obtain ⟨hp1, hp2⟩ := (hpend r).1 hpr
      rw [hrun r hp2] at hnr
      rw [hcnt]; exact h.calls_zero r hp1 hnr }

/-- The drawn id is not zero and no pending letter bears it. -/
theorem pickId_some {letters : List Postman} {z : UInt32} :
    ∀ {draws : List UInt32}, pickId letters draws = some z →
      z ≠ 0 ∧ ∀ p ∈ letters, p.id ≠ z
  | [], h => by cases h
  | d :: ds, h => by
      rw [pickId] at h
      by_cases hd : letters.any (·.id == d) = true
      · simp only [idLookup, hd, if_true] at h
        exact pickId_some h
      · simp only [idLookup, hd] at h
        by_cases h0 : d = 0
        · rw [if_pos (by simpa using h0)] at h
          exact pickId_some h
        · rw [if_neg (by simpa using h0)] at h
          cases h
          refine ⟨by simpa using h0, fun p hp he => hd ?_⟩
          exact List.any_eq_true.2 ⟨p, hp, by simpa using he⟩

/-- The drawn id is one that `random_u32` returned. -/
theorem pickId_mem {letters : List Postman} {z : UInt32} :
    ∀ {draws : List UInt32}, pickId letters draws = some z → z ∈ draws
  | [], h => by cases h
  | d :: ds, h => by
      rw [pickId] at h
      split at h
      · exact .tail _ (pickId_mem h)
      · split at h
        · exact .tail _ (pickId_mem h)
        · cases h; exact .head _

/-- What a successful `channel_send` has written. -/
theorem channelSend_fired {s : Nat} {draws : List UInt32}
    (h : channelSend st s draws true = some st') :
    ∃ z, pickId st.letters draws = some z ∧ st'.letters = ⟨z, s, st.issued⟩ :: st.letters ∧
      st'.stack = st.stack ∧ st'.soups s = { st.soups s with id := z, state := .wait } ∧
      ∀ x ≠ s, st'.soups x = st.soups x := by
  obtain ⟨z, hz, rfl⟩ := Option.map_eq_some_iff.1 h
  exact ⟨z, hz, rfl, rfl, Function.update_self _ _ _, fun x hx => Function.update_of_ne hx _ _⟩

/-- What a `channel_send` whose fire fails has written when it calls the callback. -/
theorem channelSend_failed {s : Nat} {draws : List UInt32}
    (h : channelSend st s draws false = some st') :
    st'.letters = st.letters.filter (·.timer != st.issued) ∧
      st'.stack = .sendFailed s st.issued :: st.stack ∧ (st'.soups s).state = .error ∧
      ∀ x ≠ s, st'.soups x = st.soups x := by
  obtain ⟨z, hz, rfl⟩ := Option.map_eq_some_iff.1 h
  simp only [Bool.false_eq_true, if_false]
  refine ⟨?_, rfl, by simp [Chan.call, Chan.setError, Chan.setSoup], fun x hx => ?_⟩
  · show List.filter (·.timer != st.issued) (⟨z, s, st.issued⟩ :: st.letters) = _
    rw [List.filter_cons_of_neg (by simp)]
  · exact (Function.update_of_ne hx _ _).trans (Function.update_of_ne hx _ _)

/-- An idle soup owns no pending letter. -/
theorem WF.letter_ne_idle (h : WF st) {s : Nat} (h0 : (st.soups s).id = 0) {p : Postman}
    (hp : p ∈ st.letters) : p.soupi ≠ s := by
  rintro rfl
  exact h.ids_ne_zero p hp (by rw [← h.soup_id p hp, h0])

/-- A successful send adds one letter with a fresh id and one armed timer. -/
theorem WF.send (h : WF st) {s : Nat} (h0 : (st.soups s).id = 0) {z : UInt32} (hz : z ≠ 0)
    (hzl : ∀ p ∈ st.letters, p.id ≠ z) (hl : st'.letters = ⟨z, s, st.issued⟩ :: st.letters)
    (ht : st'.timers = ⟨st.issued, s⟩ :: st.timers) (hi : st'.issued = st.issued + 1)
    (hs : st'.stack = st.stack) (hc : st'.calls = st.calls)
    (hid : ∀ x, (st'.soups x).id = if x = s then z else (st.soups x).id) : WF st' := by
  have hpend : ∀ r, st'.Pending r ↔ r = st.issued ∨ st.Pending r := fun r => by
    simp only [Chan.Pending, hl, List.mem_cons, exists_eq_or_imp, eq_comm]
  have hrun : ∀ r, st'.Running r ↔ st.Running r := fun r => by rw [Chan.Running, hs]; rfl
  have harm : ∀ r, st'.Armed r ↔ r = st.issued ∨ st.Armed r := fun r => by
    simp only [Chan.Armed, ht, List.mem_cons, exists_eq_or_imp, eq_comm]
  have hcnt : ∀ r, st'.callCount r = st.callCount r := fun r => by
    rw [Chan.callCount, Chan.callCount, hc]
  have hnew : ∀ r, st.Running r → r < st.issued := by
    rintro r ⟨f, hf, rfl⟩; exact h.frame_lt hf
  exact {
    ids := by
      rw [hl, List.map_cons, List.nodup_cons]
      refine ⟨fun hm => ?_, h.ids⟩
      obtain ⟨p, hp, he⟩ := List.mem_map.1 hm
      exact hzl p hp he
    ids_ne_zero := by
      rw [hl]; intro p hp
      rcases List.mem_cons.1 hp with rfl | hp
      · exact hz
      · exact h.ids_ne_zero p hp
    handles := by
      rw [hl, List.map_cons, List.nodup_cons]
      refine ⟨fun hm => ?_, h.handles⟩
      obtain ⟨p, hp, he⟩ := List.mem_map.1 hm
      exact absurd he (Nat.ne_of_lt (h.handles_lt p hp))
    handles_lt := by
      rw [hl, hi]; intro p hp
      rcases List.mem_cons.1 hp with rfl | hp
      · exact Nat.lt_succ_self _
      · exact Nat.lt_succ_of_lt (h.handles_lt p hp)
    soup_id := by
      rw [hl]; intro p hp
      rcases List.mem_cons.1 hp with rfl | hp
      · rw [hid, if_pos rfl]
      · rw [hid, if_neg (h.letter_ne_idle h0 hp), h.soup_id p hp]
    timer_letter := by
      rw [ht, hl]; intro t htm
      rcases List.mem_cons.1 htm with rfl | htm
      · exact ⟨_, .head _, rfl, rfl⟩
      · obtain ⟨p, hp, hpt, hps⟩ := h.timer_letter t htm
        exact ⟨p, .tail _ hp, hpt, hps⟩
    armed := by
      rw [hl]; intro p hp hnr
      rw [hrun] at hnr
      rw [harm]
      rcases List.mem_cons.1 hp with rfl | hp
      · exact .inl rfl
      · exact .inr (h.armed p hp hnr)
    frames := by
      rw [hs]; intro f hf
      have hok := h.frames f hf
      have hlt := h.frame_lt hf
      cases f with
      | timeout s' r =>
          obtain ⟨⟨p, hp, hpt, hps⟩, hna⟩ := hok
          refine ⟨⟨p, by rw [hl]; exact .tail _ hp, hpt, hps⟩, ?_⟩
          rw [harm]
          rintro (he | ha)
          · exact absurd he (Nat.ne_of_lt hlt)
          · exact hna ha
      | invoke du => show du ∈ st'.letters; rw [hl]; exact .tail _ hok
      | sendFailed s' r =>
          have hss : s' ≠ s := by rintro rfl; exact hok.1 h0
          refine ⟨by rw [hid, if_neg hss]; exact hok.1, ?_, by rw [hi]; exact Nat.lt_succ_of_lt hlt⟩
          rw [hl]; intro p hp
          rcases List.mem_cons.1 hp with rfl | hp
          · exact ⟨hss.symm, fun he => absurd he.symm (Nat.ne_of_lt hlt)⟩
          · exact hok.2.1 p hp
    frame_soups := by
      rw [hs]
      exact h.frame_soups
    calls_lt := by
      intro r hlt
      rw [hcnt]
      rw [hi] at hlt
      exact h.calls_lt r (by omega)
    calls_one := by
      intro r hlt hpr
      rw [hpend, hrun] at hpr
      rw [hcnt]
      rw [hi] at hlt
      -- the new request is pending and its callback is not running
      have hne : r ≠ st.issued := fun he => absurd (hnew r (hpr (.inl he))) (by omega)
      exact h.calls_one r (by omega) fun hpd => hpr (.inr hpd)
    calls_zero := by
      intro r hpr hnr
      rw [hpend] at hpr
      rw [hrun] at hnr
      rw [hcnt]
      rcases hpr with rfl | hpr
      · exact h.calls_lt _ (Nat.le_refl _)
      · exact h.calls_zero r hpr hnr }

/-- A failed send leaves the letters and the timers as they were and runs the callback. -/
theorem WF.sendFailed (h : WF st) {s : Nat} (h0 : (st.soups s).id = 0) {z : UInt32} (hz : z ≠ 0)
    {o : Outcome} (hl : st'.letters = st.letters) (ht : st'.timers = st.timers)
    (hi : st'.issued = st.issued + 1) (hs : st'.stack = .sendFailed s st.issued :: st.stack)
    (hc : st'.calls = (st.issued, o) :: st.calls)
    (hid : ∀ x, (st'.soups x).id = if x = s then z else (st.soups x).id) : WF st' := by
  have hpend : ∀ r, st'.Pending r ↔ st.Pending r := fun r => by rw [Chan.Pending, hl]; rfl
  have harm : ∀ r, st'.Armed r ↔ st.Armed r := fun r => by rw [Chan.Armed, ht]; rfl
  have hrun : ∀ r, st'.Running r ↔ r = st.issued ∨ st.Running r := fun r => by
    simp only [Chan.Running, hs, List.mem_cons, exists_eq_or_imp, Frame.req, eq_comm]
  have hcnt : ∀ r, st'.callCount r = st.callCount r + if r = st.issued then 1 else 0 :=
    Chan.callCount_cons hc
  have hlt' : ∀ r, st.Pending r → r < st.issued := by
    rintro r ⟨p, hp, rfl⟩; exact h.handles_lt p hp
  exact {
    ids := by
      rw [hl]
      exact h.ids
    ids_ne_zero := by
      rw [hl]
      exact h.ids_ne_zero
    handles := by
      rw [hl]
      exact h.handles
    handles_lt := by
      rw [hl, hi]
      exact fun p hp => Nat.lt_succ_of_lt (h.handles_lt p hp)
    soup_id := by
      rw [hl]; intro p hp
      rw [hid, if_neg (h.letter_ne_idle h0 hp), h.soup_id p hp]
    timer_letter := by
      rw [ht, hl]
      exact h.timer_letter
    armed := by
      rw [hl]; intro p hp hnr
      rw [hrun, not_or] at hnr
      rw [harm]; exact h.armed p hp hnr.2
    frames := by
      rw [hs]; intro f hf
      rcases List.mem_cons.1 hf with rfl | hf
      · refine ⟨by rw [hid, if_pos rfl]; exact hz, ?_, by rw [hi]; exact Nat.lt_succ_self _⟩
        rw [hl]; intro p hp
        exact ⟨h.letter_ne_idle h0 hp, Nat.ne_of_lt (h.handles_lt p hp)⟩
      · have hok := h.frames f hf
        cases f with
        | timeout s' r => exact ⟨by rw [hl]; exact hok.1, by rw [harm]; exact hok.2⟩
        | invoke du => show du ∈ st'.letters; rw [hl]; exact hok
        | sendFailed s' r =>
            have hss : s' ≠ s := by rintro rfl; exact hok.1 h0
            exact ⟨by rw [hid, if_neg hss]; exact hok.1, by rw [hl]; exact hok.2.1,
              by rw [hi]; exact Nat.lt_succ_of_lt hok.2.2⟩
    frame_soups := by
      rw [hs, List.map_cons, List.nodup_cons]
      refine ⟨fun hm => ?_, h.frame_soups⟩
      obtain ⟨f, hf, he⟩ := List.mem_map.1 hm
      exact h.frame_id_ne_zero hf (by rw [he]; exact h0)
    calls_lt := by
      intro r hlt
      rw [hi] at hlt
      rw [hcnt, if_neg (by omega), h.calls_lt r (by omega)]
    calls_one := by
      intro r hlt hpr
      rw [hi] at hlt
      rw [hpend, hrun] at hpr
      rw [hcnt]
      by_cases hr : r = st.issued
      · rw [if_pos hr, h.calls_lt r (by omega)]
      · rw [if_neg hr, Nat.add_zero]
        exact h.calls_one r (by omega) fun hpd => (hpr hpd).resolve_left hr
    calls_zero := by
      intro r hpr hnr
      rw [hpend] at hpr
      rw [hrun, not_or] at hnr
      rw [hcnt, if_neg hnr.1, Nat.add_zero]
      exact h.calls_zero r hpr hnr.2 }

/-- A failed send's callback returns: the soup is idle again. -/
theorem WF.sendFailed_ret (h : WF st) {s r : Nat} {rest : List Frame}
    (hs : st.stack = .sendFailed s r :: rest) (hl : st'.letters = st.letters)
    (ht : st'.timers = st.timers) (hi : st'.issued = st.issued) (hst : st'.stack = rest)
    (hc : st'.calls = st.calls)
    (hid : ∀ x, (st'.soups x).id = if x = s then 0 else (st.soups x).id) : WF st' := by
  have hok : FrameOK st (.sendFailed s r) := h.frames _ (by rw [hs]; exact .head _)
  have hpend : ∀ r, st'.Pending r ↔ st.Pending r := fun r => by rw [Chan.Pending, hl]; rfl
  have harm : ∀ r, st'.Armed r ↔ st.Armed r := fun r => by rw [Chan.Armed, ht]; rfl
  have hcnt : ∀ r, st'.callCount r = st.callCount r := fun r => by
    rw [Chan.callCount, Chan.callCount, hc]
  have hnp : ¬ st.Pending r := by rintro ⟨p, hp, he⟩; exact (hok.2.1 p hp).2 he
  have hrun : ∀ r', st.Pending r' → (st'.Running r' ↔ st.Running r') := fun r' hp => by
    have hne : r' ≠ r := by rintro rfl; exact hnp hp
    rw [Chan.Running, Chan.Running, hst, hs]
    simp only [List.mem_cons, exists_eq_or_imp, Frame.req, Ne.symm hne, false_or]
  have hnd := h.frame_soups
  rw [hs, List.map_cons, List.nodup_cons] at hnd
  exact {
    ids := by
      rw [hl]
      exact h.ids
    ids_ne_zero := by
      rw [hl]
      exact h.ids_ne_zero
    handles := by
      rw [hl]
      exact h.handles
    handles_lt := by
      rw [hl, hi]
      exact h.handles_lt
    soup_id := by
      rw [hl]; intro p hp
      rw [hid, if_neg (hok.2.1 p hp).1, h.soup_id p hp]
    timer_letter := by
      rw [ht, hl]
      exact h.timer_letter
    armed := by
      rw [hl]; intro p hp hnr
      rw [hrun _ ⟨p, hp, rfl⟩] at hnr
      rw [harm]; exact h.armed p hp hnr
    frames := by
      rw [hst]; intro f hf
      have hfk := h.frames f (by rw [hs]; exact .tail _ hf)
      cases f with
      | timeout s' r' => exact ⟨by rw [hl]; exact hfk.1, by rw [harm]; exact hfk.2⟩
      | invoke du => show du ∈ st'.letters; rw [hl]; exact hfk
      | sendFailed s' r' =>
          have hss : s' ≠ s := by rintro rfl; exact hnd.1 (List.mem_map.2 ⟨_, hf, rfl⟩)
          exact ⟨by rw [hid, if_neg hss]; exact hfk.1, by rw [hl]; exact hfk.2.1,
            by rw [hi]; exact hfk.2.2⟩
    frame_soups := by
      rw [hst]
      exact hnd.2
    calls_lt := by
      intro r' hlt
      rw [hcnt]
      exact h.calls_lt r' (hi ▸ hlt)
    calls_one := by
      intro r' hlt hpr
      rw [hcnt]
      refine h.calls_one r' (hi ▸ hlt) fun hpd => ?_
      exact (hrun r' hpd).1 (hpr ((hpend r').2 hpd))
    calls_zero := by
      intro r' hpr hnr
      rw [hpend] at hpr
      rw [hrun r' hpr] at hnr
      rw [hcnt]; exact h.calls_zero r' hpr hnr }

/-- `channel_send` keeps the invariant, whether the fire succeeds or fails. -/
theorem WF.channelSend (h : WF st) {s : Nat} (h0 : (st.soups s).id = 0) {draws : List UInt32}
    {fired : Bool} (hst : channelSend st s draws fired = some st') : WF st' := by
  obtain ⟨z, hz, rfl⟩ := Option.map_eq_some_iff.1 hst
  obtain ⟨hz0, hzl⟩ := pickId_some hz
  cases fired with
  | true =>
      exact h.send h0 hz0 hzl rfl rfl rfl rfl rfl (st.setSoup_id s _)
  | false =>
      -- the letter and the timer just added are the only ones the failure branch removes
      simp only [Bool.false_eq_true, if_false]
      refine h.sendFailed h0 hz0 (o := .sendFailed) ?_ ?_ rfl rfl rfl fun x => ?_
      · show List.filter (·.timer != st.issued) (⟨z, s, st.issued⟩ :: st.letters) = st.letters
        rw [List.filter_cons_of_neg (by simp), List.filter_eq_self]
        exact fun p hp => bne_iff_ne.2 (Nat.ne_of_lt (h.handles_lt p hp))
      · show List.filter (·.handle != st.issued) (⟨st.issued, s⟩ :: st.timers) = st.timers
        rw [List.filter_cons_of_neg (by simp), List.filter_eq_self]
        intro t ht
        obtain ⟨p, hp, he, -⟩ := h.timer_letter t ht
        exact bne_iff_ne.2 (he ▸ Nat.ne_of_lt (h.handles_lt p hp))
      · exact (Chan.setError_id _ s _ x).trans (st.setSoup_id s _ x)

/-- `invoke_for_dummy` keeps the invariant on a message that is no reply or carries a verdict. -/
theorem WF.invokeForDummy (h : WF st) (hs : st.stack = []) {m : WorkerMsg}
    (hm : (Ev.message m).CarriesVerdict) : WF (invokeForDummy st m) := by
  cases m with
  | notification | other => exact h
  | reply z v =>
      simp only [Channel.invokeForDummy]
      split
      · exact h
      next du hdu =>
        have hmem := List.mem_of_find?_eq_some hdu
        cases v with
        | none => exact absurd hm (by simp [Ev.CarriesVerdict])
        | some v =>
          cases v with
          | accepted data =>
              exact h.call hs hmem (f := .invoke du) (o := .accepted) rfl rfl rfl (fun _ => id)
                (fun _ ht _ => ht) (congrArg _ hs) rfl (Chan.setSoup_id_of_eq _ rfl) hmem
          | rejected reason =>
              exact h.call hs hmem (f := .invoke du) (o := .rejected) rfl rfl rfl (fun _ => id)
                (fun _ ht _ => ht) (congrArg _ hs) rfl (Chan.setSoup_id_of_eq _ rfl) hmem

/-- `on_timeout` keeps the invariant. -/
theorem WF.onTimeout (h : WF st) (hs : st.stack = []) {t : Timer} (ht : t ∈ st.timers) :
    WF (onTimeout st t) := by
  obtain ⟨p, hp, hpt, hps⟩ := h.timer_letter t ht
  refine h.call hs hp (f := .timeout t.arg t.handle) (o := .timedOut) hpt.symm rfl rfl ?_ ?_
    (congrArg _ hs) rfl (Chan.setSoup_id_of_eq _ rfl) ⟨⟨p, hp, hpt, hps⟩, ?_⟩
  · exact fun _ hu => (List.mem_filter.1 hu).1
  · exact fun _ hu hne => List.mem_filter.2 ⟨hu, bne_iff_ne.2 (hpt ▸ hne)⟩
  · rintro ⟨u, hu, he⟩
    exact bne_iff_ne.1 (List.mem_filter.1 hu).2 he

/-- The letter `on_timeout` looks up by the soup's id is the one whose timer fired. -/
theorem WF.find_timeout (h : WF st) {p : Postman} (hp : p ∈ st.letters) :
    st.letters.find? (·.id == (st.soups p.soupi).id) = some p := by
  rw [h.soup_id p hp]
  cases hf : st.letters.find? (·.id == p.id) with
  | none => exact absurd (List.find?_eq_none.1 hf p hp) (by simp)
  | some q =>
      have hq := List.mem_of_find?_eq_some hf
      have he : q.id = p.id := by simpa using List.find?_some hf
      rw [List.inj_on_of_nodup_map h.ids hq hp he]

/-- **Returning from a callback.** The state after the frame's remaining code: the request is gone
from the letters and the timers, its soup is idle, and nothing else has changed. -/
theorem WF.resume (h : WF st) {f : Frame} {rest : List Frame} (hs : st.stack = f :: rest) :
    let st' := f.resume { st with stack := rest }
    WF st' ∧ ¬ st'.Pending f.req ∧ ¬ st'.Armed f.req ∧ (st'.soups f.soup).id = 0 ∧
      st'.calls = st.calls := by
  have hok := h.frames f (by rw [hs]; exact .head _)
  cases f with
  | timeout s r =>
      obtain ⟨⟨p, hp, rfl, rfl⟩, hna⟩ := hok
      have hf := h.find_timeout hp
      simp only [Frame.resume, hf]
      refine ⟨h.complete hs hp rfl rfl (fun t => ?_) rfl rfl rfl (Chan.setSoup_id _ _ _), ?_, ?_,
        ?_, rfl⟩
      · exact ⟨fun ht => ⟨ht, fun he => hna ⟨t, ht, he⟩⟩, fun ht => ht.1⟩
      · rintro ⟨q, hq, he⟩
        exact bne_iff_ne.1 (List.mem_filter.1 hq).2 he
      · exact hna
      · exact (Chan.setSoup_id _ _ _ _).trans (if_pos rfl)
  | invoke du =>
      refine ⟨h.complete hs hok rfl rfl (fun t => ?_) rfl rfl rfl (Chan.setSoup_id _ _ _), ?_, ?_,
        ?_, rfl⟩
      · rw [← bne_iff_ne]; exact List.mem_filter
      · rintro ⟨q, hq, he⟩
        exact bne_iff_ne.1 (List.mem_filter.1 hq).2 he
      · rintro ⟨t, ht, he⟩
        exact bne_iff_ne.1 (List.mem_filter.1 ht).2 he
      · exact (Chan.setSoup_id _ _ _ _).trans (if_pos rfl)
  | sendFailed s r =>
      refine ⟨h.sendFailed_ret hs rfl rfl rfl rfl rfl (Chan.setSoup_id _ _ _), ?_, ?_, ?_, rfl⟩
      · rintro ⟨p, hp, he⟩; exact (hok.2.1 p hp).2 he
      · rintro ⟨t, ht, he⟩
        obtain ⟨p, hp, hpt, -⟩ := h.timer_letter t ht
        exact (hok.2.1 p hp).2 (hpt.trans he)
      · exact (Chan.setSoup_id _ _ _ _).trans (if_pos rfl)

/-- The code after a callback takes its request off the list. -/
theorem WF.resume_letters (h : WF st) {f : Frame} {rest : List Frame} (hs : st.stack = f :: rest) :
    (f.resume { st with stack := rest }).letters = st.letters.filter (·.timer != f.req) := by
  have hok := h.frames f (by rw [hs]; exact .head _)
  cases f with
  | timeout s r =>
      obtain ⟨⟨p, hp, rfl, rfl⟩, -⟩ := hok
      simp only [Frame.resume, h.find_timeout hp]; rfl
  | invoke du => rfl
  | sendFailed s r =>
      exact (List.filter_eq_self.2 fun p hp => bne_iff_ne.2 (hok.2.1 p hp).2).symm

/-- **The step lemma.** Every event keeps the invariant. -/
theorem WF.step {e : Ev} (h : WF st) (he : e.CarriesVerdict) (hst : step st e = some st') :
    WF st' := by
  cases e with
  | send s draws fired =>
      simp only [Channel.step, Option.ite_none_right_eq_some] at hst
      exact h.channelSend hst.1 hst.2
  | message m =>
      simp only [Channel.step, Option.ite_none_right_eq_some] at hst
      obtain ⟨hs, hm⟩ := hst
      cases hm; exact h.invokeForDummy hs he
  | timeout t =>
      simp only [Channel.step, Option.ite_none_right_eq_some] at hst
      obtain ⟨hs, hm⟩ := hst
      obtain ⟨u, hu, rfl⟩ := Option.map_eq_some_iff.1 hm
      exact h.onTimeout hs (List.mem_of_find?_eq_some hu)
  | touch s v =>
      cases hst
      exact h.of_ids rfl rfl rfl rfl rfl (Chan.setSoup_id_of_eq _ rfl)
  | ret =>
      simp only [Channel.step] at hst
      split at hst
      · cases hst
      next f rest hs => cases hst; exact (h.resume hs).1

/-- The run lemma: the invariant holds along every run of verdict-carrying events. -/
theorem WF.run {evs : List Ev} (h : WF st) (hv : ∀ e ∈ evs, e.CarriesVerdict)
    (hst : exec Channel.step st evs = some st') : WF st' := by
  induction evs generalizing st with
  | nil => cases hst; exact h
  | cons e es ih =>
      obtain ⟨s₁, h1, h2⟩ := exec_cons.1 hst
      exact ih (h.step (hv e (.head _)) h1) (fun e' he' => hv e' (.tail _ he')) h2

/-! ## What the invariant says of the requests -/

/-- A request has had its callback at most once. -/
theorem WF.callCount_le_one (h : WF st) (r : Nat) : st.callCount r ≤ 1 := by
  by_cases hr : r < st.issued
  · by_cases hp : st.Pending r ∧ ¬ st.Running r
    · rw [h.calls_zero r hp.1 hp.2]; exact Nat.zero_le 1
    · exact Nat.le_of_eq (h.calls_one r hr fun hpd => not_not.1 fun hn => hp ⟨hpd, hn⟩)
  · rw [h.calls_lt r (Nat.le_of_not_lt hr)]; exact Nat.zero_le 1

/-- A request without a callback so far is pending, and its timer is armed. -/
theorem WF.unanswered (h : WF st) {r : Nat} (hr : r < st.issued) (hc : st.callCount r = 0) :
    st.Pending r ∧ st.Armed r := by
  have hp : st.Pending r ∧ ¬ st.Running r := by
    by_contra hn
    have := h.calls_one r hr fun hpd => not_not.1 fun hnr => hn ⟨hpd, hnr⟩
    omega
  obtain ⟨⟨p, hp, rfl⟩, hnr⟩ := hp
  exact ⟨⟨p, hp, rfl⟩, h.armed p hp hnr⟩

/-- A request whose callback has run and returned is neither pending nor armed. -/
theorem WF.answered (h : WF st) {r : Nat} (hc : st.callCount r = 1) (hr : ¬ st.Running r) :
    ¬ st.Pending r ∧ ¬ st.Armed r := by
  have hp : ¬ st.Pending r := fun hp => by
    rw [h.calls_zero r hp hr] at hc; exact absurd hc Nat.zero_ne_one
  refine ⟨hp, ?_⟩
  rintro ⟨t, ht, rfl⟩
  obtain ⟨p, hpm, hpt, -⟩ := h.timer_letter t ht
  exact hp ⟨p, hpm, hpt⟩

/-- The running callback's request has had exactly this invocation. -/
theorem WF.running_callCount (h : WF st) {f : Frame} (hf : f ∈ st.stack) :
    st.callCount f.req = 1 :=
  h.calls_one _ (h.frame_lt hf) fun _ => ⟨f, hf, rfl⟩

/-- When the event loop is idle, an armed timer can fire, and that is its request's callback. -/
theorem timeout_enabled {r : Nat} (hs : st.stack = []) (ha : st.Armed r) :
    ∃ st', step st (.timeout r) = some st' ∧ st'.callCount r = st.callCount r + 1 := by
  obtain ⟨t, ht, he⟩ := ha
  cases hf : st.timers.find? (·.handle == r) with
  | none => exact absurd (List.find?_eq_none.1 hf t ht) (by simpa using he)
  | some u =>
      have hu : u.handle = r := by simpa using List.find?_some hf
      refine ⟨Channel.onTimeout st u, by rw [Channel.step, if_pos hs, hf]; rfl, ?_⟩
      refine (Chan.callCount_cons (i := u.handle) (o := .timedOut) rfl r).trans ?_
      rw [if_pos hu.symm]; rfl

/-- A reply whose id is not pending changes nothing. -/
theorem invokeForDummy_not_pending {z : UInt32} (hz : ∀ p ∈ st.letters, p.id ≠ z)
    (v : Option Verdict) : Channel.invokeForDummy st (.reply z v) = st := by
  have : st.letters.find? (·.id == z) = none :=
    List.find?_eq_none.2 fun p hp => by simpa using hz p hp
  rw [Channel.invokeForDummy, this]

end

/-- **Requests are completed exactly once.** After every run, the pending ids are nonzero and
distinct. A request has had at most one callback; without one it is pending with its timer armed,
and when the event loop is idle that timer can fire and deliver it; when no timer is armed and no
callback is running, every request has had exactly one. The step that ends a callback leaves its
request completed, with its soup idle, and a completed request stays off the list and the timers.
A reply to no pending id changes nothing at all. -/
theorem channel_requests_complete_once {st₀ st : Chan} {evs : List Ev} (h0 : IsInit st₀)
    (hv : ∀ e ∈ evs, e.CarriesVerdict) (h : exec step st₀ evs = some st) :
    ((st.letters.map Postman.id).Nodup ∧ ∀ p ∈ st.letters, p.id ≠ 0) ∧
    (∀ r, st.callCount r ≤ 1) ∧
    (∀ r < st.issued, st.callCount r = 0 → st.Pending r ∧ st.Armed r ∧
      (st.stack = [] → ∃ st', step st (.timeout r) = some st' ∧ st'.callCount r = 1)) ∧
    (st.timers = [] → st.stack = [] → ∀ r < st.issued, st.callCount r = 1) ∧
    (∀ f rest, st.stack = f :: rest → st.callCount f.req = 1 ∧
      ∃ st', step st .ret = some st' ∧ st'.stack = rest ∧ st'.calls = st.calls ∧
        ¬ st'.Pending f.req ∧ ¬ st'.Armed f.req ∧ (st'.soups f.soup).id = 0) ∧
    (∀ r, st.callCount r = 1 → ¬ st.Running r → ¬ st.Pending r ∧ ¬ st.Armed r) ∧
    (∀ z v st', (∀ p ∈ st.letters, p.id ≠ z) →
      step st (.message (.reply z v)) = some st' → st' = st) := by
  have hw : WF st := h0.wf.run hv h
  refine ⟨⟨hw.ids, hw.ids_ne_zero⟩, hw.callCount_le_one, ?_, ?_, ?_, fun r => hw.answered, ?_⟩
  · intro r hr hc
    obtain ⟨hp, ha⟩ := hw.unanswered hr hc
    refine ⟨hp, ha, fun hs => ?_⟩
    obtain ⟨st', h1, h2⟩ := timeout_enabled hs ha
    exact ⟨st', h1, by rw [h2, hc]⟩
  · intro ht hs r hr
    have hle := hw.callCount_le_one r
    by_contra hne
    obtain ⟨-, t, htm, -⟩ := hw.unanswered hr (by omega)
    rw [ht] at htm; cases htm
  · intro f rest hs
    obtain ⟨-, hp, ha, hid, hc⟩ := hw.resume hs
    refine ⟨hw.running_callCount (by rw [hs]; exact .head _), _, by rw [step, hs], ?_, hc, hp, ha,
      hid⟩
    exact Frame.resume_stack _ _
  · intro z v st' hz hst
    simp only [step, Option.ite_none_right_eq_some] at hst
    rw [← Option.some.inj hst.2, invokeForDummy_not_pending hz]

/-- A run with all four outcomes: a timeout whose callback sends on another soup, a late reply to
the timed-out request, an accepted and a rejected reply, and a failed send. -/
def fourOutcomes : List Ev :=
  [.send 0 [10000000] true, .timeout 0, .send 1 [10000000, 0, 10000001] true, .ret,
    .message (.reply 10000000 (some (.accepted "null"))),
    .message (.reply 10000001 (some (.accepted "null"))), .ret, .send 0 [10000002] true,
    .message (.reply 10000002 (some (.rejected "Room already exists"))), .ret,
    .send 0 [10000003] false, .ret]

/-- A reply, a timeout, a closed channel and a letter that could not be sent. -/
theorem channel_requests_complete_once_fourOutcomes :
    ∃ st, exec step { soups := fun _ => {} } fourOutcomes = some st ∧
      st.timers = [] ∧ st.stack = [] ∧ st.issued = 4 ∧ ∀ r < 4, st.callCount r = 1 := by
  refine ⟨_, rfl, rfl, rfl, rfl, ?_⟩
  have h := @channel_requests_complete_once { soups := fun _ => {} } _ fourOutcomes
    ⟨fun _ => rfl, rfl, rfl, rfl, rfl, rfl⟩
    (by simp [fourOutcomes, Ev.CarriesVerdict]) rfl
  exact h.2.2.2.1 rfl rfl

end KoreWebsocket.Channel
