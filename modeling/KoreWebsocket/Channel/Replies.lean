import Mathlib
import KoreWebsocket.Channel.Completion

/-!
# Replies come to the request they answer

The channel with the worker behind it: a request that is fired goes to the worker, which answers each
one once, whenever it likes, and the queues lose nothing. Each request on its way, and its reply, has the
number that the channel gave the request, which the code does not see.

`channel_send` draws an id that no pending request has. A request that timed out is not pending any more
while its reply is still to come, and a later request can draw its id (`late_reply_is_cross_talk`). Where
no draw does so, every callback gets the reply to its own request (`own_reply_delivered`).
-/

namespace KoreWebsocket.Channel

open Machine

/-- A request on its way, or its reply. -/
structure Parcel where
  id : UInt32
  req : Nat
  deriving DecidableEq, Repr

/-- The channel, the two queues and the requests that the worker has not answered. The last field is the
history: each request whose callback was called for a reply, and the request that the reply answers. -/
structure Link where
  chan : Chan
  toCpp : List Parcel := []
  worker : List Parcel := []
  toKore : List (Parcel × Verdict) := []
  delivered : List (Nat × Nat) := []

namespace Link

/-- All that has been fired and not come back. -/
def inFlight (l : Link) : List Parcel := l.toCpp ++ l.worker ++ l.toKore.map Prod.fst

/-- The callback invocations that a step of the channel added. -/
def newCalls (before after : Chan) : List (Nat × Outcome) :=
  after.calls.take (after.calls.length - before.calls.length)

/-- What can happen. -/
inductive Ev
  /-- `channel_send`, a timer, a write to a soup, or the end of a callback. -/
  | kore (e : Channel.Ev)
  /-- The worker reads its next request. -/
  | receive
  /-- The worker answers one of the requests that it has read. -/
  | reply (i : Nat) (verdict : Verdict)
  /-- Kore reads the next reply. -/
  | deliver
  deriving DecidableEq, Repr

/-- One event. -/
def step (l : Link) : Ev → Option Link
  | .kore (.message _) => none
  | .kore (.send s draws fired) =>
      (Channel.step l.chan (.send s draws fired)).map fun chan =>
        { l with
          chan
          toCpp := if fired then l.toCpp ++ [⟨(chan.soups s).id, l.chan.issued⟩] else l.toCpp }
  | .kore e => (Channel.step l.chan e).map fun chan => { l with chan }
  | .receive =>
      match l.toCpp with
      | [] => none
      | p :: rest => some { l with toCpp := rest, worker := l.worker ++ [p] }
  | .reply i verdict =>
      l.worker[i]?.map fun p =>
        { l with worker := l.worker.eraseIdx i, toKore := l.toKore ++ [(p, verdict)] }
  | .deliver =>
      match l.toKore with
      | [] => none
      | (p, verdict) :: rest =>
          (Channel.step l.chan (.message (.reply p.id (some verdict)))).map fun chan =>
            { l with
              chan
              toKore := rest
              delivered := (newCalls l.chan chan).map (fun call => (call.1, p.req)) ++ l.delivered }

/-- The id that is drawn is not that of a request or reply still on its way. -/
def Fresh (l : Link) : Ev → Prop
  | .kore (.send _ draws true) => ∀ p ∈ l.inFlight, pickId l.chan.letters draws ≠ some p.id
  | _ => True

instance (l : Link) (e : Ev) : Decidable (l.Fresh e) := by
  unfold Fresh
  split <;> infer_instance

/-! ## The letters -/

/-- The code after a callback only removes letters. -/
theorem resume_letters_sublist (st : Chan) (f : Frame) :
    (f.resume st).letters.Sublist st.letters := by
  cases f with
  | timeout s r =>
      simp only [Frame.resume]
      split
      case h_1 => exact List.Sublist.refl _
      case h_2 => exact List.filter_sublist
  | invoke du => exact List.filter_sublist
  | sendFailed s r => exact List.Sublist.refl _

/-- A message only removes letters. -/
theorem invokeForDummy_letters_sublist (st : Chan) (m : WorkerMsg) :
    (invokeForDummy st m).letters.Sublist st.letters := by
  cases m with
  | notification | other => exact List.Sublist.refl _
  | reply z v =>
      simp only [invokeForDummy]
      split
      case h_1 => exact List.Sublist.refl _
      case h_2 du hfind =>
        rcases v with _ | _ | _
        · exact resume_letters_sublist st (.invoke du)
        · exact List.Sublist.refl _
        · exact List.Sublist.refl _

/-- **Everything that an event does to the letters**: a request that is fired adds one, and nothing else
does. -/
theorem step_letters {st st' : Chan} {e : Channel.Ev} (h : Channel.step st e = some st')
    {du : Postman} (hdu : du ∈ st'.letters) : du ∈ st.letters ∨
      ∃ s draws, e = .send s draws true ∧ pickId st.letters draws = some du.id ∧
        du.timer = st.issued := by
  cases e with
  | send s draws fired =>
      unfold Channel.step channelSend at h
      obtain ⟨-, h⟩ := Option.ite_none_right_eq_some.1 h
      obtain ⟨z, hz, rfl⟩ := Option.map_eq_some_iff.1 h
      cases fired with
      | true =>
          rcases List.mem_cons.1 hdu with rfl | hdu
          · exact .inr ⟨s, draws, rfl, hz, rfl⟩
          · exact .inl hdu
      | false =>
          obtain ⟨hdu, hne⟩ := List.mem_filter.1 hdu
          rcases List.mem_cons.1 hdu with rfl | hdu
          · exact absurd rfl (bne_iff_ne.1 hne)
          · exact .inl hdu
  | message m =>
      unfold Channel.step at h
      obtain ⟨-, h⟩ := Option.ite_none_right_eq_some.1 h
      cases h
      exact .inl ((invokeForDummy_letters_sublist st m).subset hdu)
  | timeout t =>
      unfold Channel.step at h
      obtain ⟨-, h⟩ := Option.ite_none_right_eq_some.1 h
      obtain ⟨u, -, rfl⟩ := Option.map_eq_some_iff.1 h
      exact .inl hdu
  | touch s v =>
      cases h
      exact .inl hdu
  | ret =>
      unfold Channel.step at h
      dsimp only at h
      split at h
      case h_1 => cases h
      case h_2 f rest hs =>
        cases h
        exact .inl ((resume_letters_sublist { st with stack := rest } f).subset hdu)

/-- The soup of a request that is fired bears the id that was drawn. -/
theorem send_id {st st' : Chan} {s : Nat} {draws : List UInt32}
    (h : Channel.step st (.send s draws true) = some st') :
    pickId st.letters draws = some (st'.soups s).id := by
  unfold Channel.step channelSend at h
  obtain ⟨-, h⟩ := Option.ite_none_right_eq_some.1 h
  obtain ⟨z, hz, rfl⟩ := Option.map_eq_some_iff.1 h
  rw [hz]
  simp only [if_true, Chan.setSoup_self]

/-- **Whose callback a reply is given to**: that of a pending request which bears its id. -/
theorem newCalls_reply {st st' : Chan} {z : UInt32} {verdict : Verdict}
    (h : Channel.step st (.message (.reply z (some verdict))) = some st')
    {call : Nat × Outcome} (hcall : call ∈ newCalls st st') :
    ∃ du ∈ st.letters, du.id = z ∧ call.1 = du.timer := by
  unfold Channel.step at h
  obtain ⟨-, h⟩ := Option.ite_none_right_eq_some.1 h
  cases h
  unfold newCalls invokeForDummy at hcall
  dsimp only at hcall
  split at hcall
  case h_1 =>
    rw [Nat.sub_self, List.take_zero] at hcall
    cases hcall
  case h_2 du hfind =>
    have hone : ∃ outcome, (answer st du (some verdict)).calls = (du.timer, outcome) :: st.calls := by
      cases verdict with
      | accepted data => exact ⟨.accepted, rfl⟩
      | rejected reason => exact ⟨.rejected, rfl⟩
    obtain ⟨outcome, hone⟩ := hone
    rw [hone, List.length_cons, Nat.add_sub_cancel_left, List.take_succ_cons, List.take_zero,
      List.mem_singleton] at hcall
    refine ⟨du, List.mem_of_find?_eq_some hfind, ?_, by rw [hcall]⟩
    simpa using List.find?_some hfind

/-! ## The invariant -/

/-- What is on its way under the id of a pending request is that request, or its reply. -/
structure Inv (l : Link) : Prop where
  own : ∀ p ∈ l.inFlight, ∀ du ∈ l.chan.letters, du.id = p.id → du.timer = p.req
  delivered : ∀ d ∈ l.delivered, d.1 = d.2

theorem inv_initial (chan : Chan) : Inv { chan } where
  own p hp := by simp [inFlight] at hp
  delivered d hd := by cases hd

/-- Nothing new on the way, no new letter. -/
theorem Inv.of_subset {l l' : Link} (h : Inv l) (hflight : ∀ p ∈ l'.inFlight, p ∈ l.inFlight)
    (hletters : ∀ du ∈ l'.chan.letters, du ∈ l.chan.letters)
    (hdelivered : ∀ d ∈ l'.delivered, d.1 = d.2) : Inv l' where
  own p hp du hdu := h.own p (hflight p hp) du (hletters du hdu)
  delivered := hdelivered

/-- **A request that is fired** under an id that nothing on its way has. -/
theorem Inv.fired {l : Link} (h : Inv l) {s : Nat} {draws : List UInt32} {chan : Chan}
    (hfresh : l.Fresh (.kore (.send s draws true)))
    (hsend : Channel.step l.chan (.send s draws true) = some chan) :
    Inv { l with chan, toCpp := l.toCpp ++ [⟨(chan.soups s).id, l.chan.issued⟩] } where
  own p hp du hdu heq := by
    have hid := send_id hsend
    have hp' : p ∈ l.inFlight ∨ p = ⟨(chan.soups s).id, l.chan.issued⟩ := by
      simp only [inFlight, List.mem_append, List.mem_singleton] at hp ⊢
      tauto
    rcases step_letters hsend hdu with hold | ⟨s', draws', hev, hpick, htimer⟩
    · rcases hp' with hp | rfl
      · exact h.own p hp du hold heq
      · exact absurd heq ((pickId_some hid).2 du hold)
    · cases hev
      rcases hp' with hp | rfl
      · rw [heq] at hpick
        exact absurd hpick (hfresh p hp)
      · exact htimer
  delivered := h.delivered

/-- **Every event keeps the invariant**, when no id is drawn that is still on its way. -/
theorem Inv.step {l l' : Link} {e : Ev} (h : Inv l) (hfresh : l.Fresh e) (hstep : l.step e = some l') :
    Inv l' := by
  cases e with
  | kore e =>
      cases e with
      | message m => cases hstep
      | send s draws fired =>
          obtain ⟨chan, hsend, rfl⟩ := Option.map_eq_some_iff.1 hstep
          cases fired with
          | true => exact h.fired hfresh hsend
          | false =>
              refine h.of_subset (fun p => id) (fun du hdu => ?_) h.delivered
              rcases step_letters hsend hdu with hold | ⟨s', draws', hev, -⟩
              · exact hold
              · cases hev
      | touch s v =>
          cases hstep
          exact h.of_subset (fun p => id) (fun du => id) h.delivered
      | timeout | ret =>
          obtain ⟨chan, hkore, rfl⟩ := Option.map_eq_some_iff.1 hstep
          refine h.of_subset (fun p => id) (fun du hdu => ?_) h.delivered
          rcases step_letters hkore hdu with hold | ⟨s', draws', hev, -⟩
          · exact hold
          · cases hev
  | receive =>
      simp only [Link.step] at hstep
      split at hstep
      case h_1 => cases hstep
      case h_2 p rest hqueue =>
        cases hstep
        refine h.of_subset (fun q hq => ?_) (fun du => id) h.delivered
        simp only [inFlight, hqueue, List.mem_append, List.mem_cons, List.not_mem_nil, or_false] at hq ⊢
        tauto
  | reply i verdict =>
      obtain ⟨p, hp, rfl⟩ := Option.map_eq_some_iff.1 hstep
      refine h.of_subset (fun q hq => ?_) (fun du => id) h.delivered
      simp only [inFlight, List.mem_append, List.map_append, List.map_cons, List.map_nil,
        List.mem_singleton] at hq ⊢
      rcases hq with (hq | hq) | hq | rfl
      · exact .inl (.inl hq)
      · exact .inl (.inr (List.mem_of_mem_eraseIdx hq))
      · exact .inr hq
      · exact .inl (.inr (List.mem_of_getElem? hp))
  | deliver =>
      simp only [Link.step] at hstep
      split at hstep
      case h_1 => cases hstep
      case h_2 p verdict rest hqueue =>
        obtain ⟨chan, hmessage, rfl⟩ := Option.map_eq_some_iff.1 hstep
        refine h.of_subset (fun q hq => ?_) (fun du hdu => ?_) (fun d hd => ?_)
        · simp only [inFlight, hqueue, List.map_cons, List.mem_append, List.mem_cons] at hq ⊢
          tauto
        · rcases step_letters hmessage hdu with hold | ⟨s', draws', hev, -⟩
          · exact hold
          · cases hev
        · rcases List.mem_append.1 hd with hd | hd
          · obtain ⟨call, hcall, rfl⟩ := List.mem_map.1 hd
            obtain ⟨du, hdu, hid, htimer⟩ := newCalls_reply hmessage hcall
            have hp : p ∈ l.inFlight := by simp [inFlight, hqueue]
            exact htimer.trans (h.own p hp du hdu hid)
          · exact h.delivered d hd

/-- **Callbacks get the reply to their own request**, in every run in which no id is drawn that is still
on its way. -/
theorem own_reply_delivered {chan : Chan} {events : List Ev} {l : Link}
    (hfresh : Meets step Fresh { chan } events) (hrun : exec step { chan } events = some l) :
    ∀ d ∈ l.delivered, d.1 = d.2 :=
  (exec_inv_of_meets (fun _ _ _ h hC hs => Inv.step h hC hs) hfresh hrun
    (inv_initial chan)).delivered

/-- The replies to two requests come in the other order. -/
def outOfOrder : List Ev :=
  [.kore (.send 0 [10000000] true), .kore (.send 1 [10000000, 10000001] true), .receive, .receive,
    .reply 1 (.accepted "1"), .reply 0 (.accepted "0"), .deliver, .kore .ret, .deliver, .kore .ret]

theorem own_reply_delivered_outOfOrder :
    ∃ l, exec step { chan := { soups := fun _ => {} } } outOfOrder = some l ∧
      l.delivered = [(0, 0), (1, 1)] ∧ ∀ d ∈ l.delivered, d.1 = d.2 :=
  ⟨_, rfl, rfl, @own_reply_delivered { soups := fun _ => {} } outOfOrder _ (by decide +kernel) rfl⟩

/-- The first request times out before its reply comes, and the second one draws its id. -/
def redrawn : List Ev :=
  [.kore (.send 0 [10000000] true), .receive, .kore (.timeout 0), .kore .ret,
    .kore (.send 1 [10000000] true), .reply 0 (.accepted "0"), .deliver]

/-- **The late reply to a request that timed out is given to another one's callback.** -/
theorem late_reply_is_cross_talk :
    ¬ ∀ chan events l, IsInit chan → exec step { chan } events = some l →
      ∀ d ∈ l.delivered, d.1 = d.2 := by
  intro h
  exact absurd (h { soups := fun _ => {} } redrawn _ ⟨fun _ => rfl, rfl, rfl, rfl, rfl, rfl⟩ rfl
    (1, 0) (.head _)) (by decide)

end Link

end KoreWebsocket.Channel
