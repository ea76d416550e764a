import KoreWebsocket.Rooms.World

/-!
# The rooms the two sides know

Every event of the application is a step of the abstract protocol, or invisible to it
(`Inv.step_refines`), so its invariant holds along every run and the quiescent states are described
by `rooms_agree_unless_timed_out`. The two sets can differ: `late_accept_leaves_orphan_room` is a
run in which a request times out and its accepted reply, coming late, is dropped.
-/

namespace KoreWebsocket.Rooms

open Machine
open Channel (Chan Soup Postman Timer Frame WorkerMsg Verdict WF)
open Worker (Loop Request)

/-- The event is a step of the protocol, or nothing to it. -/
def Refines (w w' : World) : Prop := Agreement.Step w.abs w'.abs ∨ w'.abs = w.abs

section
variable {w w' : World}

/-- The abstract state, field by field. -/
theorem abs_eq {pend : Set (UInt32 × UInt32)} (rooms : Set UInt32) {toCpp : List Request}
    {toKore : List WorkerMsg} {loop : Loop} {sent : List (UInt32 × UInt32)}
    {timedOut : List UInt32} (hp : w'.pend = pend) (hr : ∀ R, R ∈ w'.rooms ↔ R ∈ rooms)
    (hc : w'.toCpp = toCpp) (hk : w'.toKore = toKore) (hl : w'.loop = loop)
    (hs : w'.sent = sent) (ht : w'.timedOut = timedOut) :
    w'.abs = ⟨pend, rooms, toCpp.filterMap absReq, toKore.filterMap absMsg, {R | R ∈ loop.rooms},
      {p | p ∈ sent}, {z | z ∈ timedOut}⟩ := by
  subst hp hc hk hl hs ht
  ext R
  case rooms => exact hr R
  all_goals rfl

/-! ## Kore reads a message -/

/-- Reading the first message of the queue before acting on it. -/
theorem Inv.pop {m : WorkerMsg} {rest : List WorkerMsg} (h : Inv w) (hq : w.toKore = m :: rest) :
    Inv { w with toKore := rest } :=
  ⟨h.wf, h.idle, h.soups, h.ids, h.rooms, h.worker, h.toCpp,
    fun m' hm' => h.toKore m' (by rw [hq]; exact .tail _ hm')⟩

theorem abs_toKore_cons {m : WorkerMsg} {rest : List WorkerMsg} (hq : w.toKore = m :: rest) :
    w.abs.toKore = (absMsg m).toList ++ rest.filterMap absMsg := by
  show w.toKore.filterMap absMsg = _
  rw [hq]
  cases h : absMsg m <;> simp [h]

/-- A message without a meaning leaves the queue unseen. -/
theorem abs_toKore_skip {m : WorkerMsg} {rest : List WorkerMsg} (hq : w.toKore = m :: rest)
    (hm : absMsg m = none) : World.abs { w with toKore := rest } = w.abs := by
  have hk := abs_toKore_cons hq
  rw [hm] at hk
  exact Agreement.State.ext rfl rfl rfl hk.symm rfl rfl rfl

/-- A notification closes the room it names, and no other. -/
theorem Inv.emit_refines {R : UInt32} {e : String} {rest : List WorkerMsg} (h : Inv w)
    (hq : w.toKore = .notification R e :: rest) :
    Inv (emit { w with toKore := rest } R) ∧ Refines w (emit { w with toKore := rest } R) := by
  have hR : MsgOK (.notification R e) := h.toKore _ (by rw [hq]; exact .head _)
  have hp := h.pop hq
  refine ⟨⟨hp.wf, hp.idle, hp.soups, hp.ids, fun R' hR' => h.rooms R' (List.mem_filter.1 hR').1,
    hp.worker, hp.toCpp, hp.toKore⟩, .inl ?_⟩
  have habs : (emit { w with toKore := rest } R).abs =
      { w.abs with toKore := rest.filterMap absMsg, rooms := w.abs.rooms \ {R} } := by
    ext R'
    case rooms =>
      show R' ∈ w.rooms.filter (striUint · != striUint R) ↔ R' ∈ w.rooms ∧ R' ≠ R
      rw [List.mem_filter, bne_iff_ne]
      constructor
      · exact fun ⟨h1, h2⟩ => ⟨h1, fun he => h2 (by rw [he])⟩
      · exact fun ⟨h1, h2⟩ => ⟨h1, fun he => h2 (striUint_inj (h.rooms R' h1) hR he)⟩
    all_goals rfl
  rw [habs]
  exact .leave (abs_toKore_cons hq)

/-- A message that answers no pending request changes nothing. -/
theorem drop_refines {z : UInt32} {v : Option Verdict} {rest : List WorkerMsg}
    (hq : w.toKore = .reply z v :: rest) (hz : ∀ du ∈ w.chan.letters, du.id ≠ z) :
    Refines w { w with toKore := rest } := by
  have hpend : ∀ R, (z, R) ∉ w.abs.pend := fun R ⟨du, hdu, he, _⟩ => hz du hdu he
  have hk := abs_toKore_cons hq
  rcases v with _ | ⟨d⟩ | ⟨d⟩ <;> simp only [absMsg] at hk
  · exact .inr (abs_toKore_skip hq rfl)
  all_goals
    by_cases hzr : IsRandom z
    · rw [if_pos hzr] at hk
      exact .inl (.drop hk hpend)
    · exact .inr (abs_toKore_skip hq (if_neg hzr))

/-- What `invoke_for_dummy` has written when it calls the callback. -/
theorem answer_spec (st : Chan) (du : Postman) (v : Verdict) :
    let st' := Channel.answer st du (some v)
    st'.letters = st.letters ∧ st'.stack = .invoke du :: st.stack ∧
      (∀ x ≠ du.soupi, st'.soups x = st.soups x) ∧
      (st'.soups du.soupi).name = (st.soups du.soupi).name ∧
      (st'.soups du.soupi).inId = (st.soups du.soupi).inId ∧
      ((st'.soups du.soupi).state = .result ↔ ∃ d, v = .accepted d) := by
  cases v <;>
    refine ⟨rfl, rfl, fun x hx => Function.update_of_ne hx _ _, ?_, ?_, ?_⟩ <;>
    simp [Channel.answer, Chan.call, Chan.setError, Chan.setSoup]

/-- A reply to a pending request completes it; an accepted one makes its room. -/
theorem Inv.reply_refines {du : Postman} {v : Verdict} {rest : List WorkerMsg} (h : Inv w)
    (hq : w.toKore = .reply du.id (some v) :: rest) (hdu : du ∈ w.chan.letters) :
    let w' := runCallback { w with toKore := rest, chan := Channel.answer w.chan du (some v) }
    Inv w' ∧ Refines w w' := by
  have hrand := h.ids du hdu
  have hpend : (du.id, (w.chan.soups du.soupi).inId) ∈ w.abs.pend := ⟨du, hdu, rfl, rfl⟩
  have hfind : w.chan.letters.find? (·.id == du.id) = some du := by
    have := h.wf.find_timeout hdu
    rwa [h.wf.soup_id du hdu] at this
  have hwf : WF (Channel.answer w.chan du (some v)) := by
    have := h.wf.invokeForDummy h.idle (m := .reply du.id (some v)) rfl
    simpa only [Channel.invokeForDummy, hfind] using this
  obtain ⟨ha1, ha2, ha3, ha4, ha5, ha6⟩ := answer_spec w.chan du v
  rw [h.idle] at ha2
  obtain ⟨h1, h2, h3, h4, h5, h6, h7, h8⟩ := (h.pop hq).complete hdu
    w.timedOut hwf ha2 rfl rfl ha1 ha3 ha4 ha5
  have hk := abs_toKore_cons hq
  refine ⟨h1, .inl ?_⟩
  cases v with
  | accepted d =>
      simp only [absMsg, if_pos hrand] at hk
      rw [if_pos (ha6.2 ⟨d, rfl⟩)] at h8
      refine (abs_eq _ h2 (fun R => ?_) h3 h4 h5 h6 h7) ▸ Agreement.Step.join hk hpend
      rw [h8]; simp [or_comm, World.abs]
  | rejected d =>
      simp only [absMsg, if_pos hrand] at hk
      rw [if_neg fun he => by obtain ⟨_, he⟩ := ha6.1 he; cases he] at h8
      refine (abs_eq _ h2 (fun R => ?_) h3 h4 h5 h6 h7) ▸ Agreement.Step.deny hk hpend
      rw [h8]; rfl

/-- `on_from_cpp` on the first message of the queue. -/
theorem Inv.deliver_refines {m : WorkerMsg} {rest : List WorkerMsg} (h : Inv w)
    (hq : w.toKore = m :: rest) :
    Inv (onFromCpp { w with toKore := rest } m) ∧ Refines w (onFromCpp { w with toKore := rest } m) := by
  have hidle : ∀ w₀ : World, w₀.chan.stack = [] → runCallback w₀ = w₀ := fun w₀ hs => by
    rw [runCallback, hs]
  cases m with
  | notification R e => exact h.emit_refines hq
  | other =>
      have hrun : onFromCpp { w with toKore := rest } .other = { w with toKore := rest } :=
        hidle _ h.idle
      rw [hrun]
      exact ⟨h.pop hq, .inr (abs_toKore_skip hq rfl)⟩
  | reply z v =>
      cases hf : w.chan.letters.find? (·.id == z) with
      | none =>
          have hz : ∀ du ∈ w.chan.letters, du.id ≠ z := fun du hdu => by
            simpa using List.find?_eq_none.1 hf du hdu
          have hrun : onFromCpp { w with toKore := rest } (.reply z v) =
              { w with toKore := rest } := by
            show runCallback { w with toKore := rest, chan := Channel.invokeForDummy w.chan _ } = _
            rw [Channel.invokeForDummy_not_pending hz]
            exact hidle _ h.idle
          rw [hrun]
          exact ⟨h.pop hq, drop_refines hq hz⟩
      | some du =>
          have hdu := List.mem_of_find?_eq_some hf
          have hz : du.id = z := by simpa using List.find?_some hf
          have hv : MsgOK (.reply z v) := h.toKore _ (by rw [hq]; exact .head _)
          obtain ⟨v, rfl⟩ := Option.isSome_iff_exists.1 hv
          subst hz
          have hrun : onFromCpp { w with toKore := rest } (.reply du.id (some v)) =
              runCallback { w with toKore := rest, chan := Channel.answer w.chan du (some v) } := by
            show runCallback { w with toKore := rest, chan := Channel.invokeForDummy w.chan _ } = _
            rw [Channel.invokeForDummy, hf]
          rw [hrun]
          exact h.reply_refines hq hdu

/-! ## Kore sends and gives up -/

/-- A timeout gives up the request of its timer. -/
theorem Inv.timeout_refines {t : Timer} (h : Inv w) (ht : t ∈ w.chan.timers) :
    let w' := runCallback { w with chan := Channel.onTimeout w.chan t
                                   timedOut := (w.chan.soups t.arg).id :: w.timedOut }
    Inv w' ∧ Refines w w' := by
  obtain ⟨p, hp, hpt, hps⟩ := h.wf.timer_letter t ht
  have hid : (w.chan.soups t.arg).id = p.id := by rw [← hps, h.wf.soup_id p hp]
  have hself : (Channel.onTimeout w.chan t).soups p.soupi =
      { w.chan.soups t.arg with error := some "***TIMEOUT!***", state := .error } := by
    rw [hps]; exact Function.update_self _ _ _
  obtain ⟨h1, h2, h3, h4, h5, h6, h7, h8⟩ := h.complete hp
    ((w.chan.soups t.arg).id :: w.timedOut) (h.wf.onTimeout h.idle ht)
    (congrArg _ h.idle) hpt.symm hps.symm rfl
    (fun x hx => Function.update_of_ne (hps ▸ hx) _ _) (by rw [hself, hps]) (by rw [hself, hps])
  rw [if_neg (by rw [hself]; simp)] at h8
  refine ⟨h1, .inl ?_⟩
  have hstep := Agreement.Step.give_up (s := w.abs) (x := p.id) ⟨p, hp, rfl, rfl⟩
  have habs := abs_eq w.abs.rooms h2 (fun R => by rw [h8]; rfl) h3 h4 h5 h6 h7
  have hg : {z | z ∈ (w.chan.soups t.arg).id :: w.timedOut} = insert p.id w.abs.givenUp := by
    ext z; simp [hid, World.abs]
  rw [habs, hg]
  exact hstep

theorem nameRoom_self (st : Chan) (s : Nat) (roomId : UInt32) :
    (nameRoom st s roomId).soups s =
      { st.soups s with name := some "worker.createRoom", inId := roomId } :=
  Function.update_self _ _ _

/-- `make_room` before the request: the idle soup gets its name and its room id. -/
theorem Inv.nameRoom_wf {s : Nat} (h : Inv w) (roomId : UInt32) : WF (nameRoom w.chan s roomId) :=
  h.wf.of_ids rfl rfl rfl rfl rfl (Chan.setSoup_id_of_eq _ rfl)

/-- `make_room` with a successful fire asks for a room under a fresh id. -/
theorem Inv.send_refines {s : Nat} {roomId : UInt32} {draws : List UInt32} {st : Chan}
    (h : Inv w) (h0 : (w.chan.soups s).id = 0) (hR : IsRandom roomId)
    (hd : ∀ d ∈ draws, IsRandom d)
    (hst : Channel.channelSend (nameRoom w.chan s roomId) s draws true = some st) :
    let w' : World :=
      { w with chan := st, sent := ((st.soups s).id, roomId) :: w.sent
               toCpp := w.toCpp ++ [⟨(st.soups s).id, "worker.createRoom", some roomId⟩] }
    Inv w' ∧ Refines w w' := by
  have hwf := (h.nameRoom_wf roomId).channelSend (by rw [nameRoom_self]; exact h0) hst
  obtain ⟨z, hz, hl, hs, hself, hso⟩ := Channel.channelSend_fired hst
  have hzr : IsRandom z := hd z (Channel.pickId_mem hz)
  have hfresh : ∀ du ∈ w.chan.letters, du.id ≠ z := (Channel.pickId_some hz).2
  have hid : (st.soups s).id = z := congrArg Soup.id hself
  have hin : (st.soups s).inId = roomId := by rw [hself, nameRoom_self]
  have hname : (st.soups s).name = some "worker.createRoom" := by rw [hself, nameRoom_self]
  have hother : ∀ du ∈ w.chan.letters, st.soups du.soupi = w.chan.soups du.soupi :=
    fun du hdu => by
      have hne := h.wf.letter_ne_idle h0 hdu
      exact (hso _ hne).trans (Function.update_of_ne hne _ _)
  have hmem : ∀ du, du ∈ st.letters ↔ du = ⟨z, s, w.chan.issued⟩ ∨ du ∈ w.chan.letters :=
    fun du => by rw [hl]; exact List.mem_cons
  refine ⟨⟨hwf, hs.trans h.idle, fun du hdu => ?_, fun du hdu => ?_, h.rooms, h.worker,
    fun r hr => ?_, h.toKore⟩, .inl ?_⟩
  · rcases (hmem du).1 hdu with rfl | hdu
    · exact ⟨hname, by rw [hin]; exact hR⟩
    · show (st.soups _).name = _ ∧ IsRandom (st.soups _).inId
      rw [hother du hdu]; exact h.soups du hdu
  · rcases (hmem du).1 hdu with rfl | hdu
    · exact hzr
    · exact h.ids du hdu
  · rcases List.mem_append.1 hr with hr | hr
    · exact h.toCpp r hr
    · cases List.mem_singleton.1 hr
      rw [ReqOK, if_pos rfl]
      exact ⟨hid ▸ hzr, roomId, rfl, hR⟩
  · have hstep := Agreement.Step.send (s := w.abs) z roomId
      fun R ⟨du, hdu, he, _⟩ => hfresh du hdu he
    convert hstep using 1
    ext p
    case pend =>
      constructor
      · rintro ⟨du, hdu, h1, h2⟩
        rcases (hmem du).1 hdu with rfl | hdu
        · exact .inl (Prod.ext h1.symm (h2.symm.trans hin))
        · exact .inr ⟨du, hdu, h1, by rw [← hother du hdu]; exact h2⟩
      · rintro (rfl | ⟨du, hdu, h1, h2⟩)
        · exact ⟨_, (hmem _).2 (.inl rfl), rfl, hin⟩
        · refine ⟨du, (hmem _).2 (.inr hdu), h1, ?_⟩
          show (st.soups _).inId = _
          rw [hother du hdu]; exact h2
    case toWorker => simp [World.abs, absReq, hid]
    case sent => simp [World.abs, hid]
    all_goals rfl

/-- `make_room` with a failed fire runs the callback, and nothing is asked. -/
theorem Inv.send_failed_refines {s : Nat} {roomId : UInt32} {draws : List UInt32} {st : Chan}
    (h : Inv w) (h0 : (w.chan.soups s).id = 0)
    (hst : Channel.channelSend (nameRoom w.chan s roomId) s draws false = some st) :
    Inv (runCallback { w with chan := st }) ∧ Refines w (runCallback { w with chan := st }) := by
  have hwf := (h.nameRoom_wf roomId).channelSend (by rw [nameRoom_self]; exact h0) hst
  obtain ⟨hl, hs, hstate, hso⟩ := Channel.channelSend_failed hst
  have hs' : st.stack = [.sendFailed s w.chan.issued] := by rw [hs]; exact congrArg _ h.idle
  obtain ⟨st', h1, h2, h3, h4, h5⟩ := runCallback_spec (w := { w with chan := st }) hwf hs'
  have hl' : st'.letters = w.chan.letters := by
    rw [h3]
    show List.filter _ st.letters = _
    rw [hl, List.filter_filter]
    refine List.filter_eq_self.2 fun du hdu => ?_
    have := Nat.ne_of_lt (h.wf.handles_lt du hdu)
    simpa [nameRoom, Frame.req] using this
  have hother : ∀ du ∈ w.chan.letters, st'.soups du.soupi = w.chan.soups du.soupi :=
    fun du hdu => by
      have hne := h.wf.letter_ne_idle h0 hdu
      exact (h4 _ hne).trans ((hso _ hne).trans (Function.update_of_ne hne _ _))
  rw [if_neg (by show ¬ ((st.soups s).state = _ ∧ _); rw [hstate]; simp)] at h5
  rw [h5]
  refine ⟨⟨h1, h2, fun du hdu => ?_, fun du hdu => h.ids du (hl' ▸ hdu), h.rooms, h.worker, h.toCpp,
    h.toKore⟩, .inr ?_⟩
  · have hdu : du ∈ w.chan.letters := hl' ▸ hdu
    show (st'.soups _).name = _ ∧ IsRandom (st'.soups _).inId
    rw [hother du hdu]; exact h.soups du hdu
  · refine Agreement.State.ext ?_ rfl rfl rfl rfl rfl rfl
    ext p
    show (∃ du ∈ st'.letters, _) ↔ ∃ du ∈ w.chan.letters, _
    rw [hl']
    refine exists_congr fun du => and_congr_right fun hdu => ?_
    show _ ∧ (st'.soups _).inId = _ ↔ _
    rw [hother du hdu]

/-! ## The worker reads a request -/

theorem abs_toWorker_cons {r : Request} {rest : List Request} (hq : w.toCpp = r :: rest) :
    w.abs.toWorker = (absReq r).toList ++ rest.filterMap absReq := by
  show w.toCpp.filterMap absReq = _
  rw [hq]
  cases h : absReq r <;> simp [h]

/-- A request fired past the channel asks for no room. -/
theorem fire_refines {r : Request} (hr : r.method ≠ "worker.createRoom") :
    Refines w { w with toCpp := w.toCpp ++ [r] } := by
  have habs : ∀ o, absReq r = o → World.abs { w with toCpp := w.toCpp ++ [r] } =
      { w.abs with toWorker := w.abs.toWorker ++ o.toList } := by
    rintro o rfl
    refine Agreement.State.ext rfl rfl ?_ rfl rfl rfl rfl
    show (w.toCpp ++ [r]).filterMap absReq = w.toCpp.filterMap absReq ++ _
    rw [List.filterMap_append]
    cases ho : absReq r <;> simp [ho]
  cases hR : r.roomId with
  | none => exact .inr ((habs none (by simp [absReq, hR])).trans (by simp))
  | some R =>
      by_cases hc : r.method = "room.close"
      · exact .inl ((habs (some (.close R)) (by simp [absReq, hR, hc])) ▸ .ask_close R)
      · exact .inr ((habs none (by simp [absReq, hR, hc, hr])).trans (by simp))

/-- The worker side of a step, when the invariants of the queues and the rooms are kept. -/
theorem Inv.of_worker {rest : List Request} {loop : Loop} {out : List WorkerMsg} (h : Inv w)
    (hrest : ∀ r ∈ rest, ReqOK r) (hl : ∀ R ∈ loop.rooms, IsRandom R) (ho : ∀ m ∈ out, MsgOK m) :
    Inv { w with toCpp := rest, loop := loop, toKore := w.toKore ++ out } :=
  ⟨h.wf, h.idle, h.soups, h.ids, h.rooms, hl, hrest, fun m hm =>
    (List.mem_append.1 hm).elim (h.toKore m) (ho m)⟩

/-- `Loop::OnChannelRequest` on the next request. -/
theorem Inv.work_refines {r : Request} {rest : List Request} (h : Inv w)
    (hq : w.toCpp = r :: rest) :
    let out := w.loop.userOnUnixStreamRead r
    Inv { w with toCpp := rest, loop := out.1, toKore := w.toKore ++ out.2 } ∧
      Refines w { w with toCpp := rest, loop := out.1, toKore := w.toKore ++ out.2 } := by
  have hok : ReqOK r := h.toCpp r (by rw [hq]; exact .head _)
  have hrest : ∀ r' ∈ rest, ReqOK r' := fun r' hr' => h.toCpp r' (by rw [hq]; exact .tail _ hr')
  have hk := abs_toWorker_cons hq
  dsimp only
  rcases w.loop.userOnUnixStreamRead_cases r with ⟨R, hm, hR, hmem, he⟩ | ⟨R, hm, hR, hmem, he⟩ |
    ⟨R, hm, hR, hmem, he⟩ | ⟨hn1, hn2, hserved⟩
  · -- the room is created
    rw [ReqOK, if_pos hm, hR] at hok
    obtain ⟨hid, R', hR', hrand⟩ := hok
    cases hR'
    rw [show absReq r = some (.create r.id R) by simp [absReq, hR, hm]] at hk
    rw [he]
    refine ⟨h.of_worker hrest (fun R' hR' => ?_) (by simp [Request.accept, MsgOK]), .inl ?_⟩
    · rcases List.mem_cons.1 hR' with rfl | hR'
      · exact hrand
      · exact h.worker R' hR'
    · convert Agreement.Step.opens hk hmem using 1
      refine Agreement.State.ext rfl rfl rfl ?_ ?_ rfl rfl
      · simp [World.abs, absMsg, Request.accept, hid, List.filterMap_append]
      · ext R'; simp [World.abs]
  · -- the room exists
    rw [ReqOK, if_pos hm, hR] at hok
    obtain ⟨hid, R', hR', hrand⟩ := hok
    cases hR'
    rw [show absReq r = some (.create r.id R) by simp [absReq, hR, hm]] at hk
    rw [he]
    refine ⟨h.of_worker hrest h.worker (by simp [Request.reject, MsgOK]), .inl ?_⟩
    convert Agreement.Step.refuse hk hmem using 1
    refine Agreement.State.ext rfl rfl rfl ?_ rfl rfl rfl
    simp [World.abs, absMsg, Request.reject, hid, List.filterMap_append]
  · -- the room is closed
    have hcr : r.method ≠ "worker.createRoom" := by rw [hm]; decide
    rw [ReqOK, if_neg hcr] at hok
    rw [show absReq r = some (.close R) by simp [absReq, hR, hm]] at hk
    rw [he]
    refine ⟨h.of_worker hrest (fun R' hR' => h.worker R' (List.mem_filter.1 hR').1)
      (by simp [Request.accept, MsgOK, h.worker R hmem]), .inl ?_⟩
    convert Agreement.Step.closes hk hmem using 1
    refine Agreement.State.ext rfl rfl rfl ?_ ?_ rfl rfl
    · simp [World.abs, absMsg, Request.accept, hok, List.filterMap_append]
    · ext R'; simp [World.abs, Loop.onRoomClosed]
  · -- the rooms are left alone, and so is the protocol but for a `room.close` that misses
    have hcr : r.method = "worker.createRoom" → False := fun hm => by
      rw [ReqOK, if_pos hm] at hok
      obtain ⟨-, R, hR, -⟩ := hok
      exact hn1 R hm hR
    rw [ReqOK, if_neg hcr] at hok
    obtain ⟨hl, ho⟩ := hserved
    have hmsg : ∀ m ∈ (w.loop.userOnUnixStreamRead r).2, MsgOK m ∧ absMsg m = none := by
      rcases ho with ho | ⟨v, ho⟩ <;> rw [ho]
      · exact fun m hm => by cases hm
      · intro m hm
        rw [List.mem_singleton.1 hm]
        cases v <;> exact ⟨rfl, if_neg hok⟩
    rw [hl]
    refine ⟨h.of_worker hrest h.worker fun m hm => (hmsg m hm).1, ?_⟩
    have hnone : (w.toKore ++ (w.loop.userOnUnixStreamRead r).2).filterMap absMsg =
        w.toKore.filterMap absMsg := by
      rw [List.filterMap_append, List.filterMap_eq_nil_iff.2 fun m hm => (hmsg m hm).2,
        List.append_nil]
    by_cases hcl : ∃ R, r.method = "room.close" ∧ r.roomId = some R
    · obtain ⟨R, hm, hR⟩ := hcl
      rw [show absReq r = some (.close R) by simp [absReq, hR, hm]] at hk
      refine .inl ?_
      convert Agreement.Step.close_miss hk (hn2 R hm hR) using 1
      exact Agreement.State.ext rfl rfl rfl hnone rfl rfl rfl
    · have : absReq r = none := by
        cases hR : r.roomId with
        | none => simp [absReq, hR]
        | some R =>
            have hm : r.method ≠ "room.close" := fun hm => hcl ⟨R, hm, hR⟩
            simp [absReq, hR, hm, show r.method ≠ "worker.createRoom" from hcr]
      rw [this] at hk
      exact .inr (Agreement.State.ext rfl rfl hk.symm hnone rfl rfl rfl)

/-! ## Every event -/

/-- **The refinement.** Every event keeps the invariant and is a step of the protocol, or nothing
to it. -/
theorem Inv.step_refines {e : Ev} (h : Inv w) (hst : step w e = some w') :
    Inv w' ∧ Refines w w' := by
  cases e with
  | makeRoom s roomId draws fired =>
      simp only [step, Option.ite_none_right_eq_some] at hst
      obtain ⟨⟨h0, hR, hd⟩, hst⟩ := hst
      obtain ⟨st, hs, rfl⟩ := Option.map_eq_some_iff.1 hst
      cases fired with
      | true => exact h.send_refines h0 hR hd hs
      | false => exact h.send_failed_refines h0 hs
  | fire r =>
      simp only [step, Option.ite_none_right_eq_some] at hst
      obtain ⟨⟨hm, hid⟩, hst⟩ := hst
      cases hst
      refine ⟨⟨h.wf, h.idle, h.soups, h.ids, h.rooms, h.worker, fun r' hr' => ?_, h.toKore⟩,
        fire_refines hm⟩
      rcases List.mem_append.1 hr' with hr' | hr'
      · exact h.toCpp r' hr'
      · rw [List.mem_singleton.1 hr', ReqOK, if_neg hm]; exact hid
  | work =>
      simp only [step] at hst
      split at hst
      · cases hst
      next r rest hq => cases hst; exact h.work_refines hq
  | deliver =>
      simp only [step] at hst
      split at hst
      · cases hst
      next m rest hq => cases hst; exact h.deliver_refines hq
  | timeout t =>
      simp only [step] at hst
      obtain ⟨u, hu, rfl⟩ := Option.map_eq_some_iff.1 hst
      exact h.timeout_refines (List.mem_of_find?_eq_some hu)

/-- The run lemma: both invariants hold after every run from the empty state. -/
theorem run_inv {evs : List Ev} (h : exec step {} evs = some w) :
    Inv w ∧ Agreement.Inv w.abs := by
  refine exec_inv (I := fun w => Inv w ∧ Agreement.Inv w.abs) (fun s e s' hs hst => ?_) h
    ⟨inv_init, abs_init ▸ Agreement.inv_empty⟩
  obtain ⟨h1, h2⟩ := hs.1.step_refines hst
  exact ⟨h1, h2.elim hs.2.step fun he => he ▸ hs.2⟩

end

/-- A callback does not time out. -/
theorem runCallback_timedOut (w : World) : (runCallback w).timedOut = w.timedOut := by
  rw [runCallback]
  split
  · rfl
  next f rest hs =>
      obtain ⟨v, -, hspec⟩ := weCanWorkItOut_spec w f.soup
      rw [hspec]

/-- Only a timeout adds to the ids that have timed out. -/
theorem timedOut_of_step {w w' : World} {e : Ev} (h : step w e = some w')
    (hn : ∀ t, e ≠ .timeout t) : w'.timedOut = w.timedOut := by
  cases e with
  | makeRoom s roomId draws fired =>
      simp only [step, Option.ite_none_right_eq_some] at h
      obtain ⟨st, -, rfl⟩ := Option.map_eq_some_iff.1 h.2
      cases fired with
      | true => rfl
      | false => exact runCallback_timedOut _
  | fire r =>
      simp only [step, Option.ite_none_right_eq_some] at h
      cases h.2; rfl
  | work =>
      simp only [step] at h
      split at h <;> cases h
      rfl
  | deliver =>
      simp only [step] at h
      split at h <;> cases h
      next m rest hq =>
        cases m with
        | notification R e => rfl
        | reply z v => exact runCallback_timedOut _
        | other => exact runCallback_timedOut _
  | timeout t => exact absurd rfl (hn t)

/-- A run without timeouts gives up no request. -/
theorem timedOut_of_run {w w' : World} {evs : List Ev} (h : exec step w evs = some w')
    (hn : ∀ t, Ev.timeout t ∉ evs) : w'.timedOut = w.timedOut := by
  induction evs generalizing w with
  | nil => cases h; rfl
  | cons e es ih =>
      obtain ⟨w₁, h1, h2⟩ := exec_cons.1 h
      rw [ih h2 fun t ht => hn t (.tail _ ht)]
      exact timedOut_of_step h1 fun t he => hn t (he ▸ .head _)

/-- **Room agreement.** In every quiescent state of every run, the rooms kore knows are keys of
`Loop::rooms`, and a key of `Loop::rooms` that kore does not know was asked for under a request id
that timed out. So after a run without timeouts the two sets are equal. -/
theorem rooms_agree_unless_timed_out {w : World} {evs : List Ev} (h : exec step {} evs = some w)
    (hq : w.Quiescent) :
    (∀ R ∈ w.rooms, R ∈ w.loop.rooms) ∧
    (∀ R ∈ w.loop.rooms, R ∈ w.rooms ∨ ∃ z ∈ w.timedOut, (z, R) ∈ w.sent) ∧
    ((∀ t, Ev.timeout t ∉ evs) → ∀ R, R ∈ w.rooms ↔ R ∈ w.loop.rooms) := by
  obtain ⟨h1, h2⟩ := (run_inv h).2.quiescent (s := w.abs) (by simp [World.abs, hq.1])
    (by simp [World.abs, hq.2.1])
  refine ⟨h1, h2, fun hn R => ⟨fun hR => h1 hR, fun hR => ?_⟩⟩
  rcases h2 R hR with hR' | ⟨z, hz, -⟩
  · exact hR'
  · have hz : z ∈ w.timedOut := hz
    rw [timedOut_of_run h hn] at hz
    cases hz

/-- A room created, used and closed, and another one created. -/
theorem rooms_agree_unless_timed_out_two_rooms :
    ∃ w, exec step {} [.makeRoom 0 10000001 [20000000] true, .work, .deliver,
        .fire ⟨344444433, "room.close", some 10000001⟩, .makeRoom 1 10000002 [20000000] true,
        .work, .work, .deliver, .deliver, .deliver] = some w ∧ w.Quiescent ∧
      w.rooms = [10000002] ∧ ∀ R, R ∈ w.rooms ↔ R ∈ w.loop.rooms := by
  refine ⟨_, rfl, ⟨rfl, rfl, rfl⟩, rfl, ?_⟩
  have h := @rooms_agree_unless_timed_out _ [.makeRoom 0 10000001 [20000000] true, .work,
    .deliver, .fire ⟨344444433, "room.close", some 10000001⟩,
    .makeRoom 1 10000002 [20000000] true, .work, .work, .deliver, .deliver, .deliver] rfl
    ⟨rfl, rfl, rfl⟩
  exact h.2.2 (by simp)

/-- The request times out before its reply is read; the accepted reply is then dropped, and the
worker keeps a room that kore does not know. -/
theorem late_accept_leaves_orphan_room :
    ¬ ∀ (evs : List Ev) (w : World), exec step {} evs = some w → w.Quiescent →
      ∀ R, R ∈ w.rooms ↔ R ∈ w.loop.rooms := by
  intro h
  have := h [.makeRoom 0 10000001 [20000000] true, .work, .timeout 0, .deliver] _ rfl
    ⟨rfl, rfl, rfl⟩ 10000001
  exact absurd (this.2 (by decide)) (by decide)

end KoreWebsocket.Rooms
