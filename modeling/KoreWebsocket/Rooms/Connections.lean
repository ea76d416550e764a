import KoreWebsocket.Channel.Replies
import KoreWebsocket.Rooms.World

/-!
# Connections and their soups (`mediasoup/src/mediasoup.c`)

`websocket_connect` allocates a soup for its connection and asks for a room with it;
`websocket_disconnect` frees the soup. The channel keeps the soup of a pending request in a letter and in
the argument of a timer. Soups are numbered in the order of their allocation, so that one that is freed
and one that is allocated at its address later are not the same.

Nothing takes back a pending request when its connection goes (`disconnected_soup_is_used`). Where
connections go only after their request has come to an end, the channel refers to no freed soup
(`no_freed_soup`).
-/

namespace KoreWebsocket.Rooms

open Machine
open Channel (Chan Soup Postman Timer Frame WorkerMsg Verdict)

/-- Kore with its open connections, each with the soup in `hdlr_extra`; the soups allocated so far, those
that have been freed, and those that a reply or a timer has used after that. -/
structure Server where
  world : World := {}
  connections : List (Nat × Nat) := []
  allocated : Nat := 0
  freed : List Nat := []
  misused : List Nat := []

namespace Server

/-- What can happen. -/
inductive Ev
  /-- `websocket_connect`; `mdServer` tells whether there is a server for `soup_init`. -/
  | connect (c : Nat) (mdServer : Bool) (roomId : UInt32) (draws : List UInt32) (fired : Bool)
  | disconnect (c : Nat)
  /-- `on_from_cpp`. -/
  | message (m : WorkerMsg)
  /-- The timer with this handle expires. -/
  | timeout (t : Nat)
  deriving DecidableEq, Repr

/-- `websocket_connect`: `soup_init`, then `make_room`, which does nothing without a server. -/
def websocketConnect (st : Server) (c : Nat) (mdServer : Bool) (roomId : UInt32)
    (draws : List UInt32) (fired : Bool) : Option Server :=
  let soupi := st.allocated
  let world := { st.world with chan := st.world.chan.setSoup soupi {} }
  (if mdServer then makeRoom world soupi roomId draws fired else some world).map fun world =>
    { st with world, connections := (c, soupi) :: st.connections, allocated := soupi + 1 }

/-- `websocket_disconnect`. -/
def websocketDisconnect (st : Server) (c : Nat) : Server :=
  match st.connections.lookup c with
  | none => st
  | some s =>
      { st with connections := st.connections.filter (·.1 != c), freed := s :: st.freed }

/-- The soup that `invoke_for_dummy` or `on_timeout` uses. -/
def uses (st : Server) : Ev → Option Nat
  | .message (.reply id _) => (st.world.chan.letters.find? (·.id == id)).map (·.soupi)
  | .timeout t => (st.world.chan.timers.find? (·.handle == t)).map (·.arg)
  | _ => none

/-- The soups that the event uses although they have been freed. -/
def misuses (st : Server) (e : Ev) : List Nat := (st.uses e).toList.filter (· ∈ st.freed)

/-- One event. A connection is made once. -/
def step (st : Server) (e : Ev) : Option Server :=
  match e with
  | .connect c mdServer roomId draws fired =>
      if (st.connections.lookup c).isSome then none
      else st.websocketConnect c mdServer roomId draws fired
  | .disconnect c => some (st.websocketDisconnect c)
  | .message m =>
      some { st with world := onFromCpp st.world m, misused := st.misuses e ++ st.misused }
  | .timeout t =>
      (st.world.chan.timers.find? (·.handle == t)).map fun timer =>
        { st with
          world := runCallback { st.world with chan := Channel.onTimeout st.world.chan timer }
          misused := st.misuses e ++ st.misused }

/-- When a connection goes, its soup has no pending request. -/
def Settled (st : Server) : Ev → Prop
  | .disconnect c => ∀ s ∈ st.connections.lookup c,
      (∀ du ∈ st.world.chan.letters, du.soupi ≠ s) ∧ ∀ t ∈ st.world.chan.timers, t.arg ≠ s
  | _ => True

instance (st : Server) (e : Ev) : Decidable (st.Settled e) := by
  unfold Settled
  split <;> infer_instance

/-! ## Letters and timers -/

/-- The channel refers to soups for which this holds only. -/
structure Refers (P : Nat → Prop) (chan : Chan) : Prop where
  letters : ∀ du ∈ chan.letters, P du.soupi
  timers : ∀ t ∈ chan.timers, P t.arg

section
variable {P : Nat → Prop} {chan : Chan} {w : World}

/-- Letters and timers that are removed refer to nothing. -/
theorem Refers.of_sublist (h : Refers P chan) {chan' : Chan}
    (hletters : chan'.letters.Sublist chan.letters) (htimers : chan'.timers.Sublist chan.timers) :
    Refers P chan' where
  letters du hdu := h.letters du (hletters.subset hdu)
  timers t ht := h.timers t (htimers.subset ht)

/-- The code after a callback refers to no other soups. -/
theorem Refers.resume (h : Refers P chan) (f : Frame) : Refers P (f.resume chan) := by
  refine h.of_sublist (Channel.Link.resume_letters_sublist chan f) ?_
  cases f with
  | timeout s r =>
      simp only [Frame.resume]
      split
      case h_1 => exact List.Sublist.refl _
      case h_2 => exact List.Sublist.refl _
  | invoke du => exact List.filter_sublist
  | sendFailed s r => exact List.Sublist.refl _

/-- The callback leaves the channel's letters and timers alone. -/
theorem Refers.runCallback (h : Refers P w.chan) : Refers P (runCallback w).chan := by
  unfold Rooms.runCallback
  split
  case h_1 => exact h
  case h_2 f rest hs =>
    obtain ⟨v, -, hspec⟩ := weCanWorkItOut_spec w f.soup
    dsimp only
    rw [hspec]
    have hkept : Refers P { w.chan.setSoup f.soup v with stack := rest } :=
      h.of_sublist (List.Sublist.refl _) (List.Sublist.refl _)
    exact hkept.resume f

/-- A reply takes a letter away and calls back. -/
theorem Refers.invokeForDummy (h : Refers P chan) (m : WorkerMsg) :
    Refers P (Channel.invokeForDummy chan m) := by
  cases m with
  | notification | other => exact h
  | reply z v =>
      simp only [Channel.invokeForDummy]
      split
      case h_1 => exact h
      case h_2 du hfind =>
        rcases v with _ | _ | _
        · exact h.resume (.invoke du)
        · exact h.of_sublist (List.Sublist.refl _) (List.Sublist.refl _)
        · exact h.of_sublist (List.Sublist.refl _) (List.Sublist.refl _)

/-- A message of the worker is a reply, or an event. -/
theorem Refers.onFromCpp (h : Refers P w.chan) (m : WorkerMsg) : Refers P (onFromCpp w m).chan := by
  cases m with
  | notification targetId event => exact h
  | reply z v => exact Refers.runCallback (w := { w with chan := _ }) (h.invokeForDummy (.reply z v))
  | other => exact Refers.runCallback (w := { w with chan := _ }) (h.invokeForDummy .other)

/-- A request refers to its own soup. -/
theorem Refers.channelSend (h : Refers P chan) {s : Nat} (hs : P s) {draws : List UInt32}
    {fired : Bool} {chan' : Chan} (hsend : Channel.channelSend chan s draws fired = some chan') :
    Refers P chan' := by
  obtain ⟨z, -, rfl⟩ := Option.map_eq_some_iff.1 hsend
  have hfired : Refers P { chan with
      letters := ⟨z, s, chan.issued⟩ :: chan.letters
      timers := ⟨chan.issued, s⟩ :: chan.timers } :=
    ⟨List.forall_mem_cons.2 ⟨hs, h.letters⟩, List.forall_mem_cons.2 ⟨hs, h.timers⟩⟩
  cases fired with
  | true => exact hfired.of_sublist (List.Sublist.refl _) (List.Sublist.refl _)
  | false => exact hfired.of_sublist List.filter_sublist List.filter_sublist

/-- A room is made for the soup, with a letter and a timer. -/
theorem Refers.makeRoom (h : Refers P w.chan) {s : Nat} (hs : P s) {roomId : UInt32}
    {draws : List UInt32} {fired : Bool} {w' : World}
    (hmake : makeRoom w s roomId draws fired = some w') : Refers P w'.chan := by
  obtain ⟨chan, hsend, rfl⟩ := Option.map_eq_some_iff.1 hmake
  have hnamed : Refers P (nameRoom w.chan s roomId) :=
    h.of_sublist (List.Sublist.refl _) (List.Sublist.refl _)
  have hchan : Refers P chan := hnamed.channelSend hs hsend
  split
  case isTrue => exact hchan
  case isFalse => exact Refers.runCallback (w := { w with chan }) hchan

end

/-! ## The invariant -/

/-- A soup that has been allocated and not freed. -/
def Live (st : Server) (s : Nat) : Prop := s < st.allocated ∧ s ∉ st.freed

/-- The channel refers to live soups, and no other soup has been used. -/
structure Inv (st : Server) : Prop where
  refers : Refers st.Live st.world.chan
  freed_lt : ∀ s ∈ st.freed, s < st.allocated
  connections_lt : ∀ p ∈ st.connections, p.2 < st.allocated
  misused : st.misused = []

theorem inv_initial : Inv {} where
  refers := ⟨(fun _ h => by cases h), (fun _ h => by cases h)⟩
  freed_lt _ h := by cases h
  connections_lt _ h := by cases h
  misused := rfl

theorem Refers.mono {P Q : Nat → Prop} {chan : Chan} (h : Refers P chan) (hPQ : ∀ s, P s → Q s) :
    Refers Q chan where
  letters du hdu := hPQ _ (h.letters du hdu)
  timers t ht := hPQ _ (h.timers t ht)

variable {st st' : Server}

/-- What a reply or a timer uses is live. -/
theorem Inv.misuses_eq_nil (h : Inv st) (e : Ev) : st.misuses e = [] := by
  unfold misuses
  rw [List.filter_eq_nil_iff]
  intro s hs hfreed
  have hlive : st.Live s := by
    rw [Option.mem_toList] at hs
    unfold uses at hs
    split at hs
    case h_1 id v =>
      obtain ⟨du, hfind, rfl⟩ := Option.map_eq_some_iff.1 hs
      exact h.refers.letters du (List.mem_of_find?_eq_some hfind)
    case h_2 t =>
      obtain ⟨timer, hfind, rfl⟩ := Option.map_eq_some_iff.1 hs
      exact h.refers.timers timer (List.mem_of_find?_eq_some hfind)
    case h_3 => cases hs
  exact hlive.2 (of_decide_eq_true hfreed)

/-- A new connection. -/
theorem Inv.websocketConnect (h : Inv st) {c : Nat} {mdServer : Bool} {roomId : UInt32}
    {draws : List UInt32} {fired : Bool}
    (hconnect : st.websocketConnect c mdServer roomId draws fired = some st') : Inv st' := by
  obtain ⟨world, hworld, rfl⟩ := Option.map_eq_some_iff.1 hconnect
  have hnew : st.allocated ∉ st.freed := fun hmem => lt_irrefl _ (h.freed_lt _ hmem)
  have hrefers : Refers (fun s => s < st.allocated + 1 ∧ s ∉ st.freed)
      { st.world with chan := st.world.chan.setSoup st.allocated {} }.chan :=
    (h.refers.mono fun s hs => ⟨Nat.lt_succ_of_lt hs.1, hs.2⟩).of_sublist (List.Sublist.refl _)
      (List.Sublist.refl _)
  constructor
  case refers =>
    split at hworld
    case isTrue => exact hrefers.makeRoom ⟨Nat.lt_succ_self _, hnew⟩ hworld
    case isFalse =>
      cases hworld
      exact hrefers
  case freed_lt => exact fun s hs => Nat.lt_succ_of_lt (h.freed_lt s hs)
  case connections_lt =>
    exact List.forall_mem_cons.2 ⟨Nat.lt_succ_self _,
      fun p hp => Nat.lt_succ_of_lt (h.connections_lt p hp)⟩
  case misused => exact h.misused

/-- A connection that goes, with no pending request. -/
theorem Inv.websocketDisconnect (h : Inv st) {c : Nat} (hsettled : st.Settled (.disconnect c)) :
    Inv (st.websocketDisconnect c) := by
  unfold Server.websocketDisconnect
  split
  case h_1 => exact h
  case h_2 s hlookup =>
    obtain ⟨hletters, htimers⟩ := hsettled s hlookup
    obtain ⟨l₁, l₂, hconnections, -⟩ := List.lookup_eq_some_iff.1 hlookup
    have hs : s < st.allocated := h.connections_lt (c, s) (by
      rw [hconnections]
      exact List.mem_append_right _ (.head _))
    constructor
    case refers =>
      constructor
      · intro du hdu
        obtain ⟨hlt, hfree⟩ := h.refers.letters du hdu
        exact ⟨hlt, List.not_mem_cons_of_ne_of_not_mem (hletters du hdu) hfree⟩
      · intro t ht
        obtain ⟨hlt, hfree⟩ := h.refers.timers t ht
        exact ⟨hlt, List.not_mem_cons_of_ne_of_not_mem (htimers t ht) hfree⟩
    case freed_lt => exact List.forall_mem_cons.2 ⟨hs, h.freed_lt⟩
    case connections_lt => exact fun p hp => h.connections_lt p (List.mem_filter.1 hp).1
    case misused => exact h.misused

/-- **Every event keeps the invariant**, when no connection goes with its request pending. -/
theorem Inv.step {e : Ev} (h : Inv st) (hsettled : st.Settled e) (hstep : st.step e = some st') :
    Inv st' := by
  cases e with
  | connect c mdServer roomId draws fired =>
      unfold Server.step at hstep
      dsimp only at hstep
      split at hstep
      case isTrue => cases hstep
      case isFalse => exact h.websocketConnect hstep
  | disconnect c =>
      cases hstep
      exact h.websocketDisconnect hsettled
  | message m =>
      cases hstep
      constructor
      case refers => exact h.refers.onFromCpp m
      case freed_lt => exact h.freed_lt
      case connections_lt => exact h.connections_lt
      case misused => rw [h.misuses_eq_nil, List.nil_append, h.misused]
  | timeout t =>
      obtain ⟨timer, hfind, rfl⟩ := Option.map_eq_some_iff.1 hstep
      constructor
      case refers =>
        exact Refers.runCallback (w := { st.world with chan := _ })
          (h.refers.of_sublist (List.Sublist.refl _) List.filter_sublist)
      case freed_lt => exact h.freed_lt
      case connections_lt => exact h.connections_lt
      case misused => rw [h.misuses_eq_nil, List.nil_append, h.misused]

/-- **Pending requests refer to live soups**, and no reply or timer uses a freed one, in every run in which
connections go only after their request has come to an end. -/
theorem no_freed_soup {events : List Ev} (hsettled : Meets step Settled {} events)
    (hrun : exec step {} events = some st) :
    (∀ du ∈ st.world.chan.letters, du.soupi ∉ st.freed) ∧
      (∀ t ∈ st.world.chan.timers, t.arg ∉ st.freed) ∧ st.misused = [] := by
  have h : Inv st := exec_inv_of_meets (fun _ _ _ h hC hs => Inv.step h hC hs) hsettled hrun inv_initial
  exact ⟨fun du hdu => (h.refers.letters du hdu).2, fun t ht => (h.refers.timers t ht).2, h.misused⟩

/-- A connection that goes after its room has been made. -/
def roomMade : List Ev :=
  [.connect 0 true 20000000 [10000000] true, .connect 1 true 20000001 [10000001] true,
    .message (.reply 10000000 (some (.accepted "\x7b\x7d"))), .disconnect 0]

/-- A room is made, its soup is freed, and nothing refers to it. -/
theorem no_freed_soup_roomMade :
    ∃ st, exec step {} roomMade = some st ∧ st.freed = [0] ∧
      (∀ du ∈ st.world.chan.letters, du.soupi ∉ st.freed) ∧
      (∀ t ∈ st.world.chan.timers, t.arg ∉ st.freed) ∧ st.misused = [] :=
  ⟨_, rfl, rfl, @no_freed_soup _ roomMade (by decide +kernel) rfl⟩

/-- **A timer uses the soup of a connection that has gone.** -/
theorem disconnected_soup_is_used :
    ¬ ∀ events st, exec step {} events = some st →
      (∀ du ∈ st.world.chan.letters, du.soupi ∉ st.freed) ∧
        (∀ t ∈ st.world.chan.timers, t.arg ∉ st.freed) ∧ st.misused = [] := by
  intro h
  have hused := (h [.connect 0 true 20000000 [10000000] true, .disconnect 0, .timeout 0] _ rfl).2.2
  exact absurd hused (by decide +kernel)

end Server

end KoreWebsocket.Rooms
