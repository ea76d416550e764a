import KoreWebsocket.Rtc.Outcome

/-!
# The full mesh of a room

A room keeps a sender in each peer that has capabilities for each receiver with parameters of the other
peers. What that is about is a `View` of the room: who can send and receive, and the two maps between
receivers and senders. A mesh may be incomplete for a set of pending pairs (`MeshBut`) while senders are
created one after the other; it is complete (`Mesh`) when nothing is pending. The lemmas on views say
what adding a sender, admitting a receiver and closing a receiver or a peer do to a mesh, and the room's
functions are shown to have these effects.
-/

namespace KoreWebsocket.Rtc

open Checked (Ends)

/-! ## Meshes -/

/-- What a mesh is about: the peers with capabilities, the receivers that there are and those that have
parameters, the senders that the peers own, and the maps `mapRtpReceiverRtpSenders` and
`mapRtpSenderRtpReceiver`. -/
@[ext] structure View where
  capable : UInt32 → Bool
  alive : Ref → Bool
  ready : Ref → Bool
  owned : Ref → Bool
  rtpSenders : Ref → Option (List Ref)
  rtpReceiver : Ref → Option Ref

/-- A full mesh, but for the pending pairs of a peer and a receiver. -/
structure MeshBut (pending : UInt32 → Ref → Prop) (v : View) : Prop where
  inverse : ∀ s r, (∃ rtpSenders, v.rtpSenders r = some rtpSenders ∧ s ∈ rtpSenders) ↔
    v.rtpReceiver s = some r
  entries : ∀ r, (v.rtpSenders r).isSome = v.ready r
  owned : ∀ s, v.owned s = (v.rtpReceiver s).isSome
  foreign : ∀ s r, v.rtpReceiver s = some r → r.1 ≠ s.1
  unique : ∀ s s' r, v.rtpReceiver s = some r → v.rtpReceiver s' = some r → s.1 = s'.1 → s = s'
  complete : ∀ peerId r, v.capable peerId = true → v.ready r = true → r.1 ≠ peerId →
    ¬ pending peerId r → ∃ s, s.1 = peerId ∧ v.rtpReceiver s = some r
  fresh : ∀ s r, v.rtpReceiver s = some r → ¬ pending s.1 r
  alive_of_ready : ∀ r, v.ready r = true → v.alive r = true
  capable_of_alive : ∀ r, v.alive r = true → v.capable r.1 = true
  capable_of_owned : ∀ s, v.owned s = true → v.capable s.1 = true

/-- A full mesh. -/
abbrev Mesh : View → Prop := MeshBut fun _ _ => False

namespace View

variable (v : View)

/-- A peer gets capabilities. -/
def enable (peerId : UInt32) : View :=
  { v with capable := fun peerId' => peerId' = peerId || v.capable peerId' }

/-- A receiver is created. -/
def arrive (r : Ref) : View := { v with alive := fun r' => r' = r || v.alive r' }

/-- A receiver gets its first parameters. -/
def getReady (r : Ref) : View :=
  { v with
    ready := fun r' => r' = r || v.ready r'
    rtpSenders := fun r' => if r' = r then some [] else v.rtpSenders r' }

/-- A sender is added for a receiver. -/
def add (s r : Ref) : View :=
  { v with
    owned := fun s' => s' = s || v.owned s'
    rtpSenders := fun r' =>
      if r' = r then some (((v.rtpSenders r).getD []).insert s) else v.rtpSenders r'
    rtpReceiver := fun s' => if s' = s then some r else v.rtpReceiver s' }

/-- Senders are closed. -/
def closeSenders (closed : List Ref) : View :=
  { v with
    owned := fun s => s ∉ closed && v.owned s
    rtpSenders := fun r => (v.rtpSenders r).map (·.filter (· ∉ closed))
    rtpReceiver := fun s => if s ∈ closed then none else v.rtpReceiver s }

/-- A receiver is gone, and its entry. -/
def dropReceiver (r : Ref) : View :=
  { v with
    alive := fun r' => r' ≠ r && v.alive r'
    ready := fun r' => r' ≠ r && v.ready r'
    rtpSenders := fun r' => if r' = r then none else v.rtpSenders r' }

/-- A peer is gone, with its receivers and its senders. -/
def dropPeer (peerId : UInt32) : View :=
  { v with
    capable := fun peerId' => peerId' ≠ peerId && v.capable peerId'
    alive := fun r => r.1 ≠ peerId && v.alive r
    ready := fun r => r.1 ≠ peerId && v.ready r
    owned := fun s => s.1 ≠ peerId && v.owned s }

end View

namespace MeshBut

variable {pending pending' : UInt32 → Ref → Prop} {v : View}

/-- The pending pairs may be replaced by the same pairs. -/
theorem congr (h : MeshBut pending v) (hiff : ∀ peerId r, pending peerId r ↔ pending' peerId r) :
    MeshBut pending' v := by
  obtain rfl : pending = pending' := funext fun peerId => funext fun r => propext (hiff peerId r)
  exact h

/-- The receiver of a sender is there. -/
theorem alive_of_rtpReceiver (h : MeshBut pending v) {s r : Ref} (hs : v.rtpReceiver s = some r) :
    v.alive r = true := by
  obtain ⟨rtpSenders, hentry, -⟩ := (h.inverse s r).2 hs
  refine h.alive_of_ready r ?_
  rw [← h.entries, hentry]
  rfl

/-- A receiver that is not ready has no senders. -/
theorem ready_of_rtpReceiver (h : MeshBut pending v) {s r : Ref} (hs : v.rtpReceiver s = some r) :
    v.ready r = true := by
  obtain ⟨rtpSenders, hentry, -⟩ := (h.inverse s r).2 hs
  rw [← h.entries, hentry]
  rfl

/-- A peer that gets capabilities has every receiver pending. -/
theorem enable (h : Mesh v) {peerId : UInt32} (hnew : v.capable peerId = false) :
    MeshBut (fun peerId' r => peerId' = peerId ∧ v.ready r = true) (v.enable peerId) where
  inverse := h.inverse
  entries := h.entries
  owned := h.owned
  foreign := h.foreign
  unique := h.unique
  complete := fun peerId' r hcapable hready hne hpending => by
    have hother : peerId' ≠ peerId := fun heq => hpending ⟨heq, hready⟩
    refine h.complete peerId' r ?_ hready hne not_false
    simpa [View.enable, hother] using hcapable
  fresh := fun s r hs hpending => by
    have hs : v.rtpReceiver s = some r := hs
    have howned : v.owned s = true := by rw [h.owned, hs]; rfl
    rw [← hpending.1, h.capable_of_owned s howned] at hnew
    cases hnew
  alive_of_ready := h.alive_of_ready
  capable_of_alive := fun r hr => by simp [View.enable, h.capable_of_alive r hr]
  capable_of_owned := fun s hs => by simp [View.enable, h.capable_of_owned s hs]

/-- A receiver that is created has no parameters yet. -/
theorem arrive (h : Mesh v) {r : Ref} (hcapable : v.capable r.1 = true) : Mesh (v.arrive r) where
  inverse := h.inverse
  entries := h.entries
  owned := h.owned
  foreign := h.foreign
  unique := h.unique
  complete := h.complete
  fresh := h.fresh
  alive_of_ready := fun r' hr' => by simp [View.arrive, h.alive_of_ready r' hr']
  capable_of_alive := fun r' hr' => by
    rcases Bool.or_eq_true _ _ ▸ hr' with heq | halive
    · rw [of_decide_eq_true heq]
      exact hcapable
    · exact h.capable_of_alive r' halive
  capable_of_owned := h.capable_of_owned

/-- A receiver that gets its first parameters is pending for all the other peers with capabilities. -/
theorem getReady (h : Mesh v) {r : Ref} (halive : v.alive r = true) (hnew : v.ready r = false) :
    MeshBut (fun peerId r' => r' = r ∧ v.capable peerId = true ∧ peerId ≠ r.1) (v.getReady r) where
  inverse := fun s r' => by
    change (∃ rtpSenders, (if r' = r then some [] else v.rtpSenders r') = some rtpSenders ∧
      s ∈ rtpSenders) ↔ v.rtpReceiver s = some r'
    split
    case isTrue heq =>
      constructor
      · rintro ⟨rtpSenders, hentry, hmem⟩
        obtain rfl := Option.some.inj hentry
        exact absurd hmem List.not_mem_nil
      · intro hs
        rw [heq] at hs
        rw [h.ready_of_rtpReceiver hs] at hnew
        cases hnew
    case isFalse => exact h.inverse s r'
  entries := fun r' => by
    change (if r' = r then some [] else v.rtpSenders r').isSome = (decide (r' = r) || v.ready r')
    split
    case isTrue heq => simp [heq]
    case isFalse hne => simp [hne, h.entries]
  owned := h.owned
  foreign := h.foreign
  unique := h.unique
  complete := fun peerId r' hcapable hready hne hpending => by
    have hother : r' ≠ r := fun heq => hpending ⟨heq, hcapable, fun hpeer => hne (by rw [heq, hpeer])⟩
    refine h.complete peerId r' hcapable ?_ hne not_false
    simpa [View.getReady, hother] using hready
  fresh := fun s r' hs hpending => by
    rw [hpending.1] at hs
    rw [h.ready_of_rtpReceiver hs] at hnew
    cases hnew
  alive_of_ready := fun r' hr' => by
    rcases Bool.or_eq_true _ _ ▸ hr' with heq | hready
    · rw [of_decide_eq_true heq]
      exact halive
    · exact h.alive_of_ready r' hready
  capable_of_alive := h.capable_of_alive
  capable_of_owned := h.capable_of_owned

/-- **Adding a sender** for a pending pair settles the pair. -/
theorem add (h : MeshBut pending v) {s r : Ref} (hpending : pending s.1 r)
    (hcapable : v.capable s.1 = true) (hready : v.ready r = true) (hne : r.1 ≠ s.1)
    (hnew : v.owned s = false) :
    MeshBut (fun peerId r' => pending peerId r' ∧ ¬ (peerId = s.1 ∧ r' = r)) (v.add s r) := by
  have hnone : v.rtpReceiver s = none := by
    rw [h.owned, Option.isSome_eq_false_iff, Option.isNone_iff_eq_none] at hnew
    exact hnew
  have hreceiver : ∀ s' r', (v.add s r).rtpReceiver s' = some r' ↔
      (s' = s ∧ r' = r) ∨ (s' ≠ s ∧ v.rtpReceiver s' = some r') := by
    intro s' r'
    change (if s' = s then some r else v.rtpReceiver s') = some r' ↔ _
    split
    case isTrue heq => simp [heq, eq_comm]
    case isFalse hs' => simp [hs']
  exact {
    inverse := fun s' r' => by
      rw [hreceiver]
      change (∃ rtpSenders, (if r' = r then some (((v.rtpSenders r).getD []).insert s)
        else v.rtpSenders r') = some rtpSenders ∧ s' ∈ rtpSenders) ↔ _
      have hother : v.rtpReceiver s' = some r' → s' ≠ s := by
        rintro hs' rfl
        rw [hnone] at hs'
        cases hs'
      split
      case isTrue heq =>
        subst heq
        have hentry : (∃ rtpSenders, v.rtpSenders r' = some rtpSenders ∧ s' ∈ rtpSenders) ↔
            s' ∈ (v.rtpSenders r').getD [] := by
          cases v.rtpSenders r' <;> simp
        rw [h.inverse] at hentry
        constructor
        · rintro ⟨rtpSenders, heq, hmem⟩
          obtain rfl := Option.some.inj heq
          rcases List.mem_insert_iff.1 hmem with rfl | hmem
          · exact .inl ⟨rfl, rfl⟩
          · exact .inr ⟨hother (hentry.2 hmem), hentry.2 hmem⟩
        · rintro (⟨rfl, -⟩ | ⟨-, hs'⟩)
          · exact ⟨_, rfl, List.mem_insert_self⟩
          · exact ⟨_, rfl, List.mem_insert_of_mem (hentry.1 hs')⟩
      case isFalse hr' =>
        rw [h.inverse]
        constructor
        · exact fun hs' => .inr ⟨hother hs', hs'⟩
        · rintro (⟨-, heq⟩ | ⟨-, hs'⟩)
          · exact absurd heq hr'
          · exact hs'
    entries := fun r' => by
      change (if r' = r then some (((v.rtpSenders r).getD []).insert s)
        else v.rtpSenders r').isSome = v.ready r'
      split
      case isTrue heq => rw [heq, hready]; rfl
      case isFalse => exact h.entries r'
    owned := fun s' => by
      change (decide (s' = s) || v.owned s') = (if s' = s then some r else v.rtpReceiver s').isSome
      split
      case isTrue heq => simp [heq]
      case isFalse hs' => simp [hs', h.owned]
    foreign := fun s' r' hs' => by
      rcases (hreceiver s' r').1 hs' with ⟨rfl, rfl⟩ | ⟨-, hs'⟩
      · exact hne
      · exact h.foreign s' r' hs'
    unique := fun s₁ s₂ r' h₁ h₂ heq => by
      rcases (hreceiver s₁ r').1 h₁ with ⟨hs₁, hr₁⟩ | ⟨-, hs₁⟩
      · rcases (hreceiver s₂ r').1 h₂ with ⟨hs₂, -⟩ | ⟨-, hs₂⟩
        · rw [hs₁, hs₂]
        · rw [hr₁] at hs₂
          rw [hs₁] at heq
          exact absurd (heq ▸ hpending) (h.fresh s₂ r hs₂)
      · rcases (hreceiver s₂ r').1 h₂ with ⟨hs₂, hr₂⟩ | ⟨-, hs₂⟩
        · rw [hr₂] at hs₁
          rw [hs₂] at heq
          exact absurd (heq ▸ hpending) (h.fresh s₁ r hs₁)
        · exact h.unique s₁ s₂ r' hs₁ hs₂ heq
    complete := fun peerId r' hc hr' hpeer hsettled => by
      by_cases hpair : peerId = s.1 ∧ r' = r
      · exact ⟨s, hpair.1.symm, (hreceiver s r').2 (.inl ⟨rfl, hpair.2⟩)⟩
      · obtain ⟨s', hs', hr''⟩ := h.complete peerId r' hc hr' hpeer fun hp => hsettled ⟨hp, hpair⟩
        refine ⟨s', hs', (hreceiver s' r').2 (.inr ⟨?_, hr''⟩)⟩
        rintro rfl
        rw [hnone] at hr''
        cases hr''
    fresh := fun s' r' hs' hp => by
      rcases (hreceiver s' r').1 hs' with ⟨rfl, rfl⟩ | ⟨-, hs'⟩
      · exact hp.2 ⟨rfl, rfl⟩
      · exact h.fresh s' r' hs' hp.1
    alive_of_ready := h.alive_of_ready
    capable_of_alive := h.capable_of_alive
    capable_of_owned := fun s' hs' => by
      rcases Bool.or_eq_true _ _ ▸ hs' with heq | howned
      · rw [of_decide_eq_true heq]
        exact hcapable
      · exact h.capable_of_owned s' howned }

end MeshBut

section
variable {v : View} {closed : List Ref}

/-- The senders that are left have their receivers. -/
theorem View.closeSenders_rtpReceiver {s r : Ref} :
    (v.closeSenders closed).rtpReceiver s = some r ↔ s ∉ closed ∧ v.rtpReceiver s = some r := by
  change (if s ∈ closed then none else v.rtpReceiver s) = some r ↔ _
  split
  case isTrue h => simp [h]
  case isFalse h => simp [h]

/-- A receiver keeps those of its senders that are not closed. -/
theorem View.mem_closeSenders {s r : Ref} :
    (∃ rtpSenders, (v.closeSenders closed).rtpSenders r = some rtpSenders ∧ s ∈ rtpSenders) ↔
      s ∉ closed ∧ ∃ rtpSenders, v.rtpSenders r = some rtpSenders ∧ s ∈ rtpSenders := by
  change (∃ rtpSenders, (v.rtpSenders r).map (·.filter (· ∉ closed)) = some rtpSenders ∧
    s ∈ rtpSenders) ↔ _
  constructor
  · rintro ⟨rtpSenders, hentry, hmem⟩
    obtain ⟨before, hbefore, rfl⟩ := Option.map_eq_some_iff.1 hentry
    obtain ⟨hmem, hclosed⟩ := List.mem_filter.1 hmem
    exact ⟨of_decide_eq_true hclosed, before, hbefore, hmem⟩
  · rintro ⟨hclosed, before, hbefore, hmem⟩
    exact ⟨_, by rw [hbefore]; rfl, List.mem_filter.2 ⟨hmem, decide_eq_true hclosed⟩⟩

theorem View.closeSenders_nil (v : View) : v.closeSenders [] = v := by
  apply View.ext
  · rfl
  · rfl
  · rfl
  · rfl
  · funext r
    change (v.rtpSenders r).map (·.filter (· ∉ [])) = v.rtpSenders r
    cases v.rtpSenders r <;> simp
  · rfl

theorem View.closeSenders_cons (v : View) (s : Ref) (closed : List Ref) :
    v.closeSenders (s :: closed) = (v.closeSenders [s]).closeSenders closed := by
  apply View.ext
  · rfl
  · rfl
  · rfl
  · funext s'
    change (decide (s' ∉ s :: closed) && v.owned s') =
      (decide (s' ∉ closed) && (decide (s' ∉ [s]) && v.owned s'))
    by_cases hs : s' = s <;> simp [hs]
  · funext r
    change (v.rtpSenders r).map (·.filter (· ∉ s :: closed)) =
      ((v.rtpSenders r).map (·.filter (· ∉ [s]))).map (·.filter (· ∉ closed))
    rw [Option.map_map]
    congr 1
    funext rtpSenders
    rw [Function.comp_apply, List.filter_filter]
    congr 1
    funext s'
    by_cases hs : s' = s <;> simp [hs]
  · funext s'
    change (if s' ∈ s :: closed then none else v.rtpReceiver s') =
      if s' ∈ closed then none else if s' ∈ [s] then none else v.rtpReceiver s'
    by_cases hs : s' = s <;> simp [hs]

/-- **Closing a receiver** together with its senders. -/
theorem MeshBut.dropReceiver (h : Mesh v) {r : Ref}
    (hclosed : ∀ s, s ∈ closed ↔ v.rtpReceiver s = some r) :
    Mesh ((v.closeSenders closed).dropReceiver r) where
  inverse := fun s r' => by
    have hsenders : (v.closeSenders closed).rtpReceiver s = some r' → r' ≠ r := by
      rintro hs rfl
      obtain ⟨hopen, hs⟩ := View.closeSenders_rtpReceiver.1 hs
      exact hopen ((hclosed s).2 hs)
    have hinverse := (@View.mem_closeSenders v closed s r').trans
      ((and_congr_right fun _ => h.inverse s r').trans View.closeSenders_rtpReceiver.symm)
    change (∃ rtpSenders, (if r' = r then none else (v.closeSenders closed).rtpSenders r') =
      some rtpSenders ∧ s ∈ rtpSenders) ↔ (v.closeSenders closed).rtpReceiver s = some r'
    split
    case isTrue heq =>
      constructor
      · rintro ⟨_, hentry, -⟩
        cases hentry
      · exact fun hs => absurd heq (hsenders hs)
    case isFalse => exact hinverse
  entries := fun r' => by
    change (if r' = r then none else (v.rtpSenders r').map (·.filter (· ∉ closed))).isSome =
      (decide (r' ≠ r) && v.ready r')
    split
    case isTrue heq => simp [heq]
    case isFalse hne => simp [hne, h.entries]
  owned := fun s => by
    change (decide (s ∉ closed) && v.owned s) = (if s ∈ closed then none else v.rtpReceiver s).isSome
    split
    case isTrue hs => simp [hs]
    case isFalse hs => simp [hs, h.owned]
  foreign := fun s r' hs => h.foreign s r' (View.closeSenders_rtpReceiver.1 hs).2
  unique := fun s s' r' hs hs' => h.unique s s' r' (View.closeSenders_rtpReceiver.1 hs).2
    (View.closeSenders_rtpReceiver.1 hs').2
  complete := fun peerId r' hcapable hready hne _ => by
    obtain ⟨hother, hready⟩ := Bool.and_eq_true _ _ ▸ hready
    obtain ⟨s, hs, hr'⟩ := h.complete peerId r' hcapable hready hne not_false
    refine ⟨s, hs, View.closeSenders_rtpReceiver.2 ⟨fun hmem => ?_, hr'⟩⟩
    rw [hclosed, hr'] at hmem
    exact of_decide_eq_true hother (Option.some.inj hmem)
  fresh := fun _ _ _ => not_false
  alive_of_ready := fun r' hr' => by
    obtain ⟨hother, hready⟩ := Bool.and_eq_true _ _ ▸ hr'
    exact Bool.and_eq_true _ _ ▸ ⟨hother, h.alive_of_ready r' hready⟩
  capable_of_alive := fun r' hr' => h.capable_of_alive r' (Bool.and_eq_true _ _ ▸ hr').2
  capable_of_owned := fun s hs => h.capable_of_owned s (Bool.and_eq_true _ _ ▸ hs).2

/-- **Closing a peer** whose receivers are gone, together with its senders. -/
theorem MeshBut.dropPeer (h : Mesh v) {peerId : UInt32}
    (hgone : ∀ r, r.1 = peerId → v.alive r = false)
    (hclosed : ∀ s, s ∈ closed ↔ s.1 = peerId ∧ v.owned s = true) :
    Mesh ((v.closeSenders closed).dropPeer peerId) := by
  have hnotReady : ∀ r, r.1 = peerId → v.ready r = false := by
    intro r hr
    rw [Bool.eq_false_iff]
    intro hready
    exact Bool.false_ne_true ((hgone r hr).symm.trans (h.alive_of_ready r hready))
  exact {
    inverse := fun s r => (@View.mem_closeSenders v closed s r).trans
      ((and_congr_right fun _ => h.inverse s r).trans View.closeSenders_rtpReceiver.symm)
    entries := fun r => by
      change ((v.rtpSenders r).map (·.filter (· ∉ closed))).isSome =
        (decide (r.1 ≠ peerId) && v.ready r)
      rw [Option.isSome_map, h.entries]
      by_cases hr : r.1 = peerId
      · simp [hr, hnotReady r hr]
      · simp [hr]
    owned := fun s => by
      change (decide (s.1 ≠ peerId) && (decide (s ∉ closed) && v.owned s)) =
        (if s ∈ closed then none else v.rtpReceiver s).isSome
      split
      case isTrue hs => simp [hs]
      case isFalse hs =>
        have hother : v.owned s = true → s.1 ≠ peerId := fun howned heq =>
          hs ((hclosed s).2 ⟨heq, howned⟩)
        rw [← h.owned]
        cases howned : v.owned s with
        | false => simp
        | true => simp [hs, hother howned]
    foreign := fun s r hs => h.foreign s r (View.closeSenders_rtpReceiver.1 hs).2
    unique := fun s s' r hs hs' => h.unique s s' r (View.closeSenders_rtpReceiver.1 hs).2
      (View.closeSenders_rtpReceiver.1 hs').2
    complete := fun peerId' r hcapable hready hne _ => by
      obtain ⟨hother, hcapable⟩ := Bool.and_eq_true _ _ ▸ hcapable
      obtain ⟨-, hready⟩ := Bool.and_eq_true _ _ ▸ hready
      obtain ⟨s, hs, hr⟩ := h.complete peerId' r hcapable hready hne not_false
      refine ⟨s, hs, View.closeSenders_rtpReceiver.2 ⟨fun hmem => ?_, hr⟩⟩
      rw [hclosed, hs] at hmem
      exact of_decide_eq_true hother hmem.1
    fresh := fun _ _ _ => not_false
    alive_of_ready := fun r hr => by
      obtain ⟨hother, hready⟩ := Bool.and_eq_true _ _ ▸ hr
      exact Bool.and_eq_true _ _ ▸ ⟨hother, h.alive_of_ready r hready⟩
    capable_of_alive := fun r hr => by
      obtain ⟨hother, halive⟩ := Bool.and_eq_true _ _ ▸ hr
      exact Bool.and_eq_true _ _ ▸ ⟨hother, h.capable_of_alive r halive⟩
    capable_of_owned := fun s hs => by
      obtain ⟨hother, howned⟩ := Bool.and_eq_true _ _ ▸ hs
      exact Bool.and_eq_true _ _ ▸
        ⟨hother, h.capable_of_owned s (Bool.and_eq_true _ _ ▸ howned).2⟩ }

end

/-! ## The view of a room -/

/-- The view of a room. -/
def Room.view (room : Room) : View where
  capable := fun peerId => (room.peers.find? peerId).any (·.capabilities.isSome)
  alive := fun r => (room.peers.find? r.1).any fun peer => (peer.rtpReceivers.find? r.2).isSome
  ready := fun r => (room.peers.find? r.1).any fun peer =>
    (peer.rtpReceivers.find? r.2).any (·.rtpParameters.isSome)
  owned := fun s => (room.peers.find? s.1).any fun peer => (peer.rtpSenders.find? s.2).isSome
  rtpSenders := room.mapRtpReceiverRtpSenders.find?
  rtpReceiver := room.mapRtpSenderRtpReceiver.find?

namespace Room

/-- A receiver is alive if its peer has it. -/
theorem view_alive (room : Room) (r : Ref) : room.view.alive r =
    (room.peers.find? r.1).any fun peer => (peer.rtpReceivers.find? r.2).isSome := rfl

/-- A receiver is ready if its peer has it with parameters. -/
theorem view_ready (room : Room) (r : Ref) : room.view.ready r =
    (room.peers.find? r.1).any fun peer =>
      (peer.rtpReceivers.find? r.2).any (·.rtpParameters.isSome) := rfl

/-- A sender is owned if its peer has it. -/
theorem view_owned (room : Room) (s : Ref) : room.view.owned s =
    (room.peers.find? s.1).any fun peer => (peer.rtpSenders.find? s.2).isSome := rfl

variable {room : Room}

/-- A property of a peer after a peer is changed. -/
theorem any_modifyPeer {peerId peerId' : UInt32} {f : Peer → Peer} {q : Peer → Bool} :
    ((room.modifyPeer peerId f).peers.find? peerId').any q =
      if peerId' = peerId then (room.peers.find? peerId').any fun peer => q (f peer)
      else (room.peers.find? peerId').any q := by
  rw [modifyPeer, Table.find?_modify]
  split
  case isTrue => rw [Option.any_map]
  case isFalse => rfl

/-- A property that the peers before and after a change both have or both lack. -/
theorem any_modifyPeer_same {peerId : UInt32} {f : Peer → Peer} {q : Peer → Bool}
    (h : ∀ peer, room.peers.find? peerId = some peer → q (f peer) = q peer) (peerId' : UInt32) :
    ((room.modifyPeer peerId f).peers.find? peerId').any q = (room.peers.find? peerId').any q := by
  rw [any_modifyPeer]
  split
  case isTrue heq =>
    rw [heq]
    cases hpeer : room.peers.find? peerId with
    | none => rfl
    | some peer => exact h peer hpeer
  case isFalse => rfl

section
variable {peerId : UInt32} {f : Peer → Peer}

/-- A change of a peer that keeps its capabilities. -/
theorem capable_modifyPeer
    (h : ∀ peer, room.peers.find? peerId = some peer → (f peer).capabilities = peer.capabilities) :
    (room.modifyPeer peerId f).view.capable = room.view.capable := by
  funext peerId'
  refine any_modifyPeer_same ?_ peerId'
  intro peer hpeer
  rw [h peer hpeer]

/-- A change of a peer that keeps its receivers. -/
theorem alive_modifyPeer (h : ∀ peer, room.peers.find? peerId = some peer → ∀ id,
      ((f peer).rtpReceivers.find? id).isSome = (peer.rtpReceivers.find? id).isSome) :
    (room.modifyPeer peerId f).view.alive = room.view.alive := by
  funext r
  refine any_modifyPeer_same ?_ r.1
  intro peer hpeer
  exact h peer hpeer r.2

/-- A change of a peer that keeps which of its receivers have parameters. -/
theorem ready_modifyPeer (h : ∀ peer, room.peers.find? peerId = some peer → ∀ id,
      ((f peer).rtpReceivers.find? id).any (·.rtpParameters.isSome) =
        (peer.rtpReceivers.find? id).any (·.rtpParameters.isSome)) :
    (room.modifyPeer peerId f).view.ready = room.view.ready := by
  funext r
  refine any_modifyPeer_same ?_ r.1
  intro peer hpeer
  exact h peer hpeer r.2

/-- A change of a peer that keeps its senders. -/
theorem owned_modifyPeer (h : ∀ peer, room.peers.find? peerId = some peer → ∀ id,
      ((f peer).rtpSenders.find? id).isSome = (peer.rtpSenders.find? id).isSome) :
    (room.modifyPeer peerId f).view.owned = room.view.owned := by
  funext s
  refine any_modifyPeer_same ?_ s.1
  intro peer hpeer
  exact h peer hpeer s.2

/-- A change of a peer that keeps its members is not seen. -/
theorem view_modifyPeer
    (h : ∀ peer, room.peers.find? peerId = some peer → peer.SameMembers (f peer)) :
    (room.modifyPeer peerId f).view = room.view := by
  apply View.ext
  · exact capable_modifyPeer fun peer hpeer => (h peer hpeer).capabilities
  · refine alive_modifyPeer fun peer hpeer id => ?_
    have hmap := congrArg Option.isSome ((h peer hpeer).rtpParameters id)
    rwa [Option.isSome_map, Option.isSome_map] at hmap
  · refine ready_modifyPeer fun peer hpeer id => ?_
    have hmap := congrArg (Option.any Option.isSome) ((h peer hpeer).rtpParameters id)
    rwa [Option.any_map, Option.any_map] at hmap
  · exact owned_modifyPeer fun peer hpeer => (h peer hpeer).rtpSenders
  · rfl
  · rfl

end

/-- A new peer has no capabilities, no receivers and no senders. -/
theorem view_createPeer {peerId : UInt32} {peerName : String} (h : room.peers.find? peerId = none) :
    { room with peers := room.peers.insert peerId { peerName } }.view = room.view := by
  have hnew : ∀ q : Peer → Bool, q { peerName } = false → ∀ peerId',
      ((room.peers.insert peerId { peerName }).find? peerId').any q =
        (room.peers.find? peerId').any q := by
    intro q hq peerId'
    rw [Table.find?_insert]
    split
    case isTrue heq => rw [heq, h]; exact hq
    case isFalse => rfl
  apply View.ext
  · funext peerId'
    exact hnew _ rfl peerId'
  · funext r
    exact hnew _ rfl r.1
  · funext r
    exact hnew _ rfl r.1
  · funext s
    exact hnew _ rfl s.1
  · rfl
  · rfl

section
variable {env : Environment} {ref : Ref} {peer : Peer} {r : RtpReceiver}

/-- A receiver is put into a peer. Whether a receiver has a property is a question about that
receiver. -/
theorem any_insertRtpReceiver {peerId id : UInt32} (hpeer : room.peers.find? peerId = some peer)
    (r : RtpReceiver) (q : Option RtpReceiver → Bool) (ref : Ref) :
    ((room.modifyPeer peerId fun peer =>
        { peer with rtpReceivers := peer.rtpReceivers.insert id r }).peers.find? ref.1).any
        (fun peer => q (peer.rtpReceivers.find? ref.2)) =
      if ref = (peerId, id) then q (some r)
      else (room.peers.find? ref.1).any fun peer => q (peer.rtpReceivers.find? ref.2) := by
  rw [any_modifyPeer]
  by_cases hpeerId : ref.1 = peerId
  · rw [if_pos hpeerId, hpeerId, hpeer, Option.any_some, Option.any_some, Table.find?_insert]
    by_cases hid : ref.2 = id
    · rw [if_pos hid, if_pos (Prod.ext hpeerId hid)]
    · rw [if_neg hid, if_neg fun h => hid (congrArg Prod.snd h)]
  · rw [if_neg hpeerId, if_neg fun h => hpeerId (congrArg Prod.fst h)]

/-- A new receiver is alive, and not ready. -/
theorem view_createRtpReceiver {peerId id transportId : UInt32} (kind : MediaKind)
    (hpeer : room.peers.find? peerId = some peer) (hnew : peer.rtpReceivers.find? id = none) :
    (room.modifyPeer peerId fun peer =>
      { peer with
        rtpReceivers := peer.rtpReceivers.insert id { kind, transport := some transportId } }).view =
      room.view.arrive (peerId, id) := by
  apply View.ext
  · exact capable_modifyPeer fun _ _ => rfl
  · funext ref
    refine (any_insertRtpReceiver hpeer _ Option.isSome ref).trans ?_
    change _ = (decide (ref = (peerId, id)) || room.view.alive ref)
    split
    case isTrue heq => rw [decide_eq_true heq]; rfl
    case isFalse hne => rw [decide_eq_false hne]; rfl
  · funext ref
    refine (any_insertRtpReceiver hpeer _ (fun r => r.any (·.rtpParameters.isSome)) ref).trans ?_
    change _ = room.view.ready ref
    split
    case isTrue heq =>
      rw [heq, view_ready, hpeer]
      change false = (peer.rtpReceivers.find? id).any _
      rw [hnew]
      rfl
    case isFalse => rfl
  · exact owned_modifyPeer fun _ _ _ => rfl
  · rfl
  · rfl

/-- A receiver with parameters is ready, and everything else is as it was. -/
theorem view_setParameters (hpeer : room.peers.find? ref.1 = some peer)
    (hr : peer.rtpReceivers.find? ref.2 = some r) (p : RtpParameters) :
    (room.setParameters ref r p).view =
      { room.view with ready := fun r' => r' = ref || room.view.ready r' } := by
  apply View.ext
  · exact capable_modifyPeer fun _ _ => rfl
  · funext ref'
    refine (any_insertRtpReceiver hpeer _ Option.isSome ref').trans ?_
    change _ = room.view.alive ref'
    split
    case isTrue heq =>
      rw [heq, view_alive, hpeer, Option.any_some, hr]
      rfl
    case isFalse => rfl
  · funext ref'
    refine (any_insertRtpReceiver hpeer _ (fun r => r.any (·.rtpParameters.isSome)) ref').trans ?_
    change _ = (decide (ref' = ref) || room.view.ready ref')
    split
    case isTrue heq => rw [decide_eq_true heq]; rfl
    case isFalse hne => rw [decide_eq_false hne]; rfl
  · exact owned_modifyPeer fun _ _ _ => rfl
  · rfl
  · rfl

/-- **Everything `AddRtpSenderForRtpReceiver` can do**: it adds a sender that the peer does not have. -/
theorem view_addRtpSenderForRtpReceiver {senderPeerId : UInt32} {room' : Room}
    (hcapable : room.view.capable senderPeerId = true)
    (h : room.addRtpSenderForRtpReceiver env senderPeerId ref r = .ok room') :
    ∃ id, room.view.owned (senderPeerId, id) = false ∧
      room'.view = room.view.add (senderPeerId, id) ref := by
  obtain ⟨peer, hpeer, -⟩ := (Option.any_eq_true _ _).1 hcapable
  unfold addRtpSenderForRtpReceiver at h
  rw [hpeer] at h
  dsimp only at h
  split at h
  case h_2 => cases h
  case h_1 capabilities p _ _ =>
    split at h
    case isTrue => cases h
    case isFalse hnew =>
      obtain ⟨sent, -, heq⟩ := Checked.bind_eq_ok.1 h
      cases heq
      have hid := Option.not_isSome_iff_eq_none.1 hnew
      refine ⟨env.rtpSenderIds room.numRtpSenders, ?_, ?_⟩
      · rw [view_owned, hpeer, Option.any_some, hid]
        rfl
      · apply View.ext
        · exact capable_modifyPeer fun _ _ => rfl
        · exact alive_modifyPeer fun _ _ _ => rfl
        · exact ready_modifyPeer fun _ _ _ => rfl
        · funext s'
          refine (any_modifyPeer (q := fun peer => (peer.rtpSenders.find? s'.2).isSome)).trans ?_
          change _ = (decide (s' = (senderPeerId, env.rtpSenderIds room.numRtpSenders)) ||
            room.view.owned s')
          by_cases hpeerId : s'.1 = senderPeerId
          · rw [if_pos hpeerId, view_owned, hpeerId, hpeer, Option.any_some, Option.any_some,
              Table.find?_insert]
            by_cases hs' : s'.2 = env.rtpSenderIds room.numRtpSenders
            · rw [if_pos hs', decide_eq_true (Prod.ext hpeerId hs')]
              rfl
            · rw [if_neg hs', decide_eq_false fun h => hs' (congrArg Prod.snd h)]
              rfl
          · rw [if_neg hpeerId, decide_eq_false fun h => hpeerId (congrArg Prod.fst h)]
            rfl
        · funext r'
          exact Table.find?_insert _ _ _ _
        · funext s'
          exact Table.find?_insert _ _ _ _

/-- Sending to the senders of a receiver does not change the mesh. -/
theorem view_send {p : RtpParameters} {s : Ref} {room' : Room} (h : room.send env p s = .ok room') :
    room'.view = room.view := by
  unfold send at h
  split at h
  case h_1 => cases h; rfl
  case h_2 peer hpeer =>
    split at h
    case h_1 => cases h; rfl
    case h_2 sender hsender =>
      obtain ⟨sent, -, heq⟩ := Checked.bind_eq_ok.1 h
      cases heq
      refine view_modifyPeer fun peer' hpeer' => ?_
      obtain rfl := Option.some.inj (hpeer.symm.trans hpeer')
      exact Peer.sameMembers_rtpSender hsender

end

/-! ## Closing -/

/-- A sender leaves its peer and both maps. -/
theorem view_closeRtpSender (room : Room) (s : Ref) :
    (room.closeRtpSender s).view = room.view.closeSenders [s] := by
  apply View.ext
  · exact capable_modifyPeer fun _ _ => rfl
  · exact alive_modifyPeer fun _ _ _ => rfl
  · exact ready_modifyPeer fun _ _ _ => rfl
  · funext s'
    refine (any_modifyPeer (q := fun peer => (peer.rtpSenders.find? s'.2).isSome)).trans ?_
    change _ = (decide (s' ∉ [s]) && room.view.owned s')
    rw [view_owned]
    by_cases hpeer : s'.1 = s.1
    · rw [if_pos hpeer]
      by_cases hs : s'.2 = s.2
      · obtain rfl : s' = s := Prod.ext hpeer hs
        cases room.peers.find? s'.1 <;> simp
      · have hne : s' ≠ s := fun h => hs (congrArg Prod.snd h)
        cases room.peers.find? s'.1 <;> simp [hs, hne]
    · have hne : s' ≠ s := fun h => hpeer (congrArg Prod.fst h)
      rw [if_neg hpeer]
      simp [hne]
  · funext r
    refine (Table.find?_mapValues _ _ _).trans ?_
    change _ = (room.mapRtpReceiverRtpSenders.find? r).map (·.filter (· ∉ [s]))
    simp only [List.mem_singleton]
  · funext s'
    refine (Table.find?_erase _ _ _).trans ?_
    change _ = if s' ∈ [s] then none else room.mapRtpSenderRtpReceiver.find? s'
    simp only [List.mem_singleton]

/-- Senders close one after the other, by induction on their list. -/
theorem view_closeRtpSenders (closed : List Ref) (room : Room) :
    (closed.foldl closeRtpSender room).view = room.view.closeSenders closed := by
  induction closed generalizing room with
  | nil => exact (View.closeSenders_nil room.view).symm
  | cons s closed ih => rw [List.foldl_cons, ih, view_closeRtpSender, ← View.closeSenders_cons]

/-- The senders of a receiver, as the room has them. -/
def rtpSendersFor (room : Room) (ref : Ref) : List Ref :=
  (room.mapRtpReceiverRtpSenders.find? ref).getD []

/-- The entry of a receiver is erased. -/
theorem view_eraseEntry (room : Room) (ref : Ref) :
    { room with mapRtpReceiverRtpSenders := room.mapRtpReceiverRtpSenders.erase ref }.view =
      { room.view with
        rtpSenders := fun r => if r = ref then none else room.view.rtpSenders r } := by
  apply View.ext
  · rfl
  · rfl
  · rfl
  · rfl
  · funext r
    exact Table.find?_erase _ _ _
  · rfl

/-- A receiver closes its senders before it goes. -/
theorem view_closeRtpReceiver (room : Room) (ref : Ref) :
    (room.closeRtpReceiver ref).view =
      (room.view.closeSenders (room.rtpSendersFor ref)).dropReceiver ref := by
  have hclosed : ∀ q : Option RtpReceiver → Bool, q none = false → ∀ r : Ref,
      ((room.modifyPeer ref.1 fun peer => peer.onRtpReceiverClosed ref.2).peers.find? r.1).any
          (fun peer => q (peer.rtpReceivers.find? r.2)) =
        (decide (r ≠ ref) && (room.peers.find? r.1).any fun peer => q (peer.rtpReceivers.find? r.2)) := by
    intro q hq r
    rw [any_modifyPeer]
    by_cases hpeer : r.1 = ref.1
    · rw [if_pos hpeer]
      by_cases hid : r.2 = ref.2
      · obtain rfl : r = ref := Prod.ext hpeer hid
        cases room.peers.find? r.1 <;> simp [Peer.onRtpReceiverClosed, hq]
      · have hne : r ≠ ref := fun h => hid (congrArg Prod.snd h)
        cases room.peers.find? r.1 <;> simp [Peer.onRtpReceiverClosed, hid, hne]
    · have hne : r ≠ ref := fun h => hpeer (congrArg Prod.fst h)
      rw [if_neg hpeer, decide_eq_true hne, Bool.true_and]
  have hview : (room.modifyPeer ref.1 fun peer => peer.onRtpReceiverClosed ref.2).view =
      { room.view with
        alive := fun r => r ≠ ref && room.view.alive r
        ready := fun r => r ≠ ref && room.view.ready r } := by
    apply View.ext
    · exact capable_modifyPeer fun _ _ => rfl
    · funext r
      exact hclosed Option.isSome rfl r
    · funext r
      exact hclosed (fun r => r.any (·.rtpParameters.isSome)) rfl r
    · exact owned_modifyPeer fun _ _ _ => rfl
    · rfl
    · rfl
  unfold closeRtpReceiver onPeerRtpReceiverClosed rtpSendersFor
  split
  case h_1 hentry =>
    change room.mapRtpReceiverRtpSenders.find? ref = none at hentry
    rw [hentry, Option.getD_none, View.closeSenders_nil]
    refine hview.trans ?_
    apply View.ext
    · rfl
    · rfl
    · rfl
    · rfl
    · funext r
      change room.mapRtpReceiverRtpSenders.find? r =
        if r = ref then none else room.mapRtpReceiverRtpSenders.find? r
      split
      case isTrue heq => rw [heq, hentry]
      case isFalse => rfl
    · rfl
  case h_2 rtpSenders hentry =>
    change room.mapRtpReceiverRtpSenders.find? ref = some rtpSenders at hentry
    have hfold := view_closeRtpSenders rtpSenders
      (room.modifyPeer ref.1 fun peer => peer.onRtpReceiverClosed ref.2)
    rw [hview] at hfold
    rw [hentry, Option.getD_some]
    dsimp only
    rw [view_eraseEntry]
    have herased := congrArg (fun v : View =>
      { v with rtpSenders := fun r => if r = ref then none else v.rtpSenders r }) hfold
    exact herased.trans rfl

/-- The members of one table of a peer, as references. -/
theorem mem_refsOf {υ : Type} {members : Peer → Table UInt32 υ} {peerId : UInt32} {ref : Ref} :
    (ref ∈ match room.peers.find? peerId with
      | some peer => (members peer).keys.map fun id => (peerId, id)
      | none => []) ↔
      ref.1 = peerId ∧
        ((room.peers.find? ref.1).any fun peer => ((members peer).find? ref.2).isSome) = true := by
  cases hpeer : room.peers.find? peerId with
  | none =>
      constructor
      · exact fun h => absurd h List.not_mem_nil
      · rintro ⟨rfl, h⟩
        rw [hpeer] at h
        cases h
  | some peer =>
      dsimp only
      rw [List.mem_map]
      constructor
      · rintro ⟨id, hid, rfl⟩
        obtain ⟨value, hvalue⟩ := (Table.mem_keys _).1 hid
        refine ⟨rfl, ?_⟩
        rw [hpeer, Option.any_some, hvalue]
        rfl
      · rintro ⟨rfl, h⟩
        rw [hpeer, Option.any_some] at h
        exact ⟨ref.2, (Table.mem_keys _).2 (Option.isSome_iff_exists.1 h), rfl⟩

/-- The receivers of a peer are those that are alive. -/
theorem mem_rtpReceiversOf {peerId : UInt32} {r : Ref} :
    r ∈ room.rtpReceiversOf peerId ↔ r.1 = peerId ∧ room.view.alive r = true :=
  mem_refsOf

/-- The senders of a peer are those that it owns. -/
theorem mem_rtpSendersOf {peerId : UInt32} {s : Ref} :
    s ∈ room.rtpSendersOf peerId ↔ s.1 = peerId ∧ room.view.owned s = true :=
  mem_refsOf

/-! ## Every change keeps the mesh -/

/-- **The loops that add senders.** The peers and the receivers of the loop are all that is pending, and
none of them is twice in the loop. -/
theorem mesh_addRtpSenders {α : Type} (peerOf : α → UInt32) (refOf : α → Ref)
    (rOf : α → RtpReceiver) {env : Environment} {tasks : List α} {room room' : Room}
    (h : MeshBut (fun peerId r => ∃ a ∈ tasks, peerOf a = peerId ∧ refOf a = r) room.view)
    (hnodup : (tasks.map fun a => (peerOf a, refOf a)).Nodup)
    (htasks : ∀ a ∈ tasks, room.view.capable (peerOf a) = true ∧ room.view.ready (refOf a) = true ∧
      (refOf a).1 ≠ peerOf a)
    (hok : tasks.foldlM (fun room a => room.addRtpSenderForRtpReceiver env (peerOf a) (refOf a)
      (rOf a)) room = .ok room') :
    Mesh room'.view := by
  induction tasks generalizing room with
  | nil =>
      cases hok
      refine h.congr fun peerId r => ⟨?_, False.elim⟩
      rintro ⟨a, ha, -⟩
      exact absurd ha List.not_mem_nil
  | cons a tasks ih =>
      rw [List.foldlM_cons] at hok
      obtain ⟨room₁, hadd, hrest⟩ := Checked.bind_eq_ok.1 hok
      obtain ⟨hcapable, hready, hforeign⟩ := htasks a List.mem_cons_self
      obtain ⟨id, hnew, hview⟩ := view_addRtpSenderForRtpReceiver hcapable hadd
      rw [List.map_cons, List.nodup_cons] at hnodup
      have hadded := h.add (s := (peerOf a, id)) ⟨a, List.mem_cons_self, rfl, rfl⟩ hcapable hready
        hforeign hnew
      rw [← hview] at hadded
      refine ih (hadded.congr fun peerId r => ?_) hnodup.2 (fun b hb => ?_) hrest
      · constructor
        · rintro ⟨⟨b, hb, hpeer, hr⟩, hne⟩
          rcases List.mem_cons.1 hb with rfl | hb
          · exact absurd ⟨hpeer.symm, hr.symm⟩ hne
          · exact ⟨b, hb, hpeer, hr⟩
        · rintro ⟨b, hb, hpeer, hr⟩
          refine ⟨⟨b, List.mem_cons_of_mem a hb, hpeer, hr⟩, fun heq => hnodup.1 ?_⟩
          exact List.mem_map.2 ⟨b, hb, by rw [hpeer, hr, heq.1, heq.2]⟩
      · rw [hview]
        exact htasks b (List.mem_cons_of_mem a hb)

/-- The list of the ready receivers has all of them. -/
theorem exists_mem_readyRtpReceivers {ref : Ref} :
    (∃ e ∈ room.readyRtpReceivers, e.1 = ref) ↔ room.view.ready ref = true := by
  rw [view_ready, Option.any_eq_true]
  constructor
  · rintro ⟨e, hmem, rfl⟩
    obtain ⟨peer, hpeer, hr, hready⟩ := mem_readyRtpReceivers.1 hmem
    refine ⟨peer, hpeer, ?_⟩
    rw [hr]
    exact hready
  · rintro ⟨peer, hpeer, hany⟩
    obtain ⟨r, hr, hready⟩ := (Option.any_eq_true _ _).1 hany
    exact ⟨(ref, r), mem_readyRtpReceivers.2 ⟨peer, hpeer, hr, hready⟩, rfl⟩

/-- The list of the ready receivers has each of them once. -/
theorem nodup_readyRtpReceivers (room : Room) : (room.readyRtpReceivers.map Prod.fst).Nodup := by
  unfold readyRtpReceivers
  rw [List.map_flatMap, List.nodup_flatMap]
  constructor
  · intro e _
    have hkeys := (e.2.rtpReceivers.nodup_keysWhere (·.rtpParameters.isSome)).map
      (Prod.mk_right_injective e.1)
    rw [Table.keysWhere, List.map_map] at hkeys
    rw [List.map_map]
    exact hkeys
  · refine (List.pairwise_map.1 room.peers.nodup).imp fun hne => ?_
    intro ref hmem hmem'
    obtain ⟨e₁, h₁, heq₁⟩ := List.mem_map.1 hmem
    obtain ⟨e₂, h₂, heq₂⟩ := List.mem_map.1 hmem'
    obtain ⟨f₁, -, rfl⟩ := List.mem_map.1 h₁
    obtain ⟨f₂, -, rfl⟩ := List.mem_map.1 h₂
    exact hne ((congrArg Prod.fst heq₁).trans (congrArg Prod.fst heq₂).symm)

/-- A peer gets its capabilities, and a sender for each receiver that is ready. -/
theorem mesh_onPeerCapabilities {env : Environment} {peerId : UInt32} {peer : Peer}
    {capabilities : RtpCapabilities} {room' : Room} (h : Mesh room.view)
    (hpeer : room.peers.find? peerId = some peer) (hnone : peer.capabilities = none)
    (hok : room.onPeerCapabilities env peerId capabilities = .ok room') : Mesh room'.view := by
  obtain ⟨reduced, -, hadd⟩ := Checked.bind_eq_ok.1 hok
  have hnew : room.view.capable peerId = false := by
    change (room.peers.find? peerId).any (·.capabilities.isSome) = false
    rw [hpeer, Option.any_some, hnone]
    rfl
  have hview : (room.modifyPeer peerId fun peer =>
      { peer with capabilities := some reduced }).view = room.view.enable peerId := by
    apply View.ext
    · funext peerId'
      refine any_modifyPeer.trans ?_
      change _ = (decide (peerId' = peerId) || (room.peers.find? peerId').any (·.capabilities.isSome))
      split
      case isTrue heq => rw [heq, hpeer, decide_eq_true rfl]; rfl
      case isFalse hne => rw [decide_eq_false hne]; rfl
    · exact alive_modifyPeer fun _ _ _ => rfl
    · exact ready_modifyPeer fun _ _ _ => rfl
    · exact owned_modifyPeer fun _ _ _ => rfl
    · rfl
    · rfl
  change (room.modifyPeer peerId fun peer =>
      { peer with capabilities := some reduced }).readyRtpReceivers.foldlM
    (fun room ready => room.addRtpSenderForRtpReceiver env peerId ready.1 ready.2)
    (room.modifyPeer peerId fun peer => { peer with capabilities := some reduced }) = .ok room' at hadd
  generalize room.modifyPeer peerId (fun peer =>
    { peer with capabilities := some reduced }) = room₁ at hview hadd
  have hready : ∀ r, room₁.view.ready r = room.view.ready r := fun r => by rw [hview]; rfl
  have henabled := h.enable hnew
  rw [← hview] at henabled
  refine mesh_addRtpSenders (fun _ => peerId) Prod.fst Prod.snd
    (henabled.congr fun peerId' r => ?_) ?_ (fun e he => ?_) hadd
  · rw [← hready, ← exists_mem_readyRtpReceivers]
    constructor
    · rintro ⟨rfl, e, he, heq⟩
      exact ⟨e, he, rfl, heq⟩
    · rintro ⟨e, he, heq, hr⟩
      exact ⟨heq.symm, e, he, hr⟩
  · have hnodup := (nodup_readyRtpReceivers room₁).map (Prod.mk_right_injective peerId)
    rw [List.map_map] at hnodup
    exact hnodup
  · have hr := exists_mem_readyRtpReceivers.1 ⟨e, he, rfl⟩
    refine ⟨?_, hr, fun heq => ?_⟩
    · rw [hview]
      exact Bool.or_eq_true_iff.2 (.inl (decide_eq_true rfl))
    · -- A peer without capabilities has no receivers.
      rw [hready] at hr
      have hcapable := h.capable_of_alive _ (h.alive_of_ready _ hr)
      rw [heq, hnew] at hcapable
      cases hcapable

/-- The peers that get a sender are the capable ones other than the receiver's own. -/
theorem mem_senderPeers {peerId senderPeerId : UInt32} :
    senderPeerId ∈ room.senderPeers peerId ↔
      room.view.capable senderPeerId = true ∧ senderPeerId ≠ peerId := by
  unfold senderPeers
  rw [List.mem_filter, Table.mem_keysWhere, decide_eq_true_iff]
  exact and_congr_left fun _ => (Option.any_eq_true _ _).symm

/-- A receiver gets an entry without senders. -/
theorem view_emptyEntry (room : Room) (ref : Ref) :
    { room with mapRtpReceiverRtpSenders := room.mapRtpReceiverRtpSenders.insert ref [] }.view =
      { room.view with
        rtpSenders := fun r => if r = ref then some [] else room.view.rtpSenders r } := by
  apply View.ext
  · rfl
  · rfl
  · rfl
  · rfl
  · funext r
    exact Table.find?_insert _ _ _ _
  · rfl

/-- A receiver gets its first parameters, and a sender in each other peer, or it gets new parameters,
which are sent to the senders that it has. -/
theorem mesh_receive {env : Environment} {ref : Ref} {peer : Peer} {r : RtpReceiver}
    {p : RtpParameters} {room' : Room} (h : Mesh room.view)
    (hpeer : room.peers.find? ref.1 = some peer) (hr : peer.rtpReceivers.find? ref.2 = some r)
    (hok : (room.setParameters ref r p).onPeerRtpReceiverParameters env ref
      { r.clearRtpStreams with rtpParameters := some p } = .ok room') : Mesh room'.view := by
  have hset := view_setParameters hpeer hr p
  have hentry : (room.setParameters ref r p).mapRtpReceiverRtpSenders.find? ref =
      room.view.rtpSenders ref := rfl
  have hready := h.entries ref
  rw [← hentry] at hready
  generalize room.setParameters ref r p = room₁ at hok hset hentry hready
  unfold onPeerRtpReceiverParameters at hok
  dsimp only at hok
  split at hok
  case h_1 hnone =>
    rw [hnone] at hready
    have halive : room.view.alive ref = true := by
      rw [view_alive, hpeer, Option.any_some, hr]
      rfl
    have hview : { room₁ with
        mapRtpReceiverRtpSenders := room₁.mapRtpReceiverRtpSenders.insert ref [] }.view =
          room.view.getReady ref := by
      rw [view_emptyEntry, hset]
      rfl
    have hcapable : room₁.view.capable = room.view.capable := by rw [hset]
    have hready₁ := h.getReady halive hready.symm
    rw [← hview] at hready₁
    refine mesh_addRtpSenders id (fun _ => ref)
      (fun _ => { r.clearRtpStreams with rtpParameters := some p })
      (hready₁.congr fun peerId r' => ?_) ?_ (fun senderPeerId hmem => ?_) hok
    · constructor
      · rintro ⟨rfl, hc, hne⟩
        rw [← hcapable] at hc
        exact ⟨peerId, mem_senderPeers.2 ⟨hc, hne⟩, rfl, rfl⟩
      · rintro ⟨senderPeerId, hmem, rfl, rfl⟩
        obtain ⟨hc, hne⟩ := mem_senderPeers.1 hmem
        rw [hcapable] at hc
        exact ⟨rfl, hc, hne⟩
    · exact ((Table.nodup_keysWhere _ _).filter _).map (Prod.mk_left_injective ref)
    · obtain ⟨hc, hne⟩ := mem_senderPeers.1 hmem
      rw [hview]
      rw [hcapable] at hc
      exact ⟨hc, Bool.or_eq_true_iff.2 (.inl (decide_eq_true rfl)), hne.symm⟩
  case h_2 rtpSenders hsome =>
    rw [hsome] at hready
    have hview : room₁.view = room.view := by
      rw [hset]
      apply View.ext
      · rfl
      · rfl
      · funext r'
        change (decide (r' = ref) || room.view.ready r') = room.view.ready r'
        by_cases heq : r' = ref
        · rw [heq, ← hready, Option.isSome_some, Bool.or_true]
        · rw [decide_eq_false heq, Bool.false_or]
      · rfl
      · rfl
      · rfl
    rw [← hview] at h
    have hkept : Ends (rtpSenders.foldlM (fun room s => room.send env p s) room₁)
        (fun room => Mesh room.view) fun _ => True := by
      refine Checked.ends_foldlM (fun room s _ hroom => ?_) h
      refine (Ends.self _).mono (fun room' hsent => ?_) fun _ _ => trivial
      rw [view_send hsent]
      exact hroom
    exact hkept.of_ok hok

/-- A receiver that closes takes its senders with it. -/
theorem mesh_closeRtpReceiver (h : Mesh room.view) (ref : Ref) :
    Mesh (room.closeRtpReceiver ref).view := by
  rw [view_closeRtpReceiver]
  refine h.dropReceiver fun s => ?_
  rw [← h.inverse]
  change s ∈ (room.view.rtpSenders ref).getD [] ↔ _
  cases room.view.rtpSenders ref <;> simp

/-- The receivers of a list are closed, one after the other. -/
theorem mesh_closeRtpReceivers (refs : List Ref) {room : Room} (h : Mesh room.view) :
    Mesh (refs.foldl closeRtpReceiver room).view ∧
      ∀ r, (refs.foldl closeRtpReceiver room).view.alive r = true →
        r ∉ refs ∧ room.view.alive r = true := by
  induction refs generalizing room with
  | nil => exact ⟨h, fun r hr => ⟨List.not_mem_nil, hr⟩⟩
  | cons ref refs ih =>
      rw [List.foldl_cons]
      obtain ⟨hmesh, halive⟩ := ih (mesh_closeRtpReceiver h ref)
      refine ⟨hmesh, fun r hr => ?_⟩
      obtain ⟨hnot, hr⟩ := halive r hr
      rw [view_closeRtpReceiver] at hr
      obtain ⟨hne, hr⟩ := Bool.and_eq_true_iff.1 hr
      refine ⟨fun hmem => ?_, hr⟩
      rcases List.mem_cons.1 hmem with rfl | hmem
      · exact of_decide_eq_true hne rfl
      · exact hnot hmem

/-- Transports that close are not seen. -/
theorem view_closeTransports (peerId : UInt32) (transportIds : List UInt32) (room : Room) :
    (transportIds.foldl (fun room id => room.closeTransport peerId id) room).view = room.view := by
  induction transportIds generalizing room with
  | nil => rfl
  | cons id transportIds ih =>
      rw [List.foldl_cons, ih]
      exact view_modifyPeer fun _ _ => Peer.sameMembers_onTransportClosed id

/-- A peer that is gone has nothing. -/
theorem view_erasePeer (room : Room) (peerId : UInt32) :
    { room with peers := room.peers.erase peerId }.view = room.view.dropPeer peerId := by
  have herased : ∀ (q : Peer → Bool) (peerId' : UInt32),
      ((room.peers.erase peerId).find? peerId').any q =
        (decide (peerId' ≠ peerId) && (room.peers.find? peerId').any q) := by
    intro q peerId'
    rw [Table.find?_erase]
    split
    case isTrue heq => rw [decide_eq_false (not_not.2 heq)]; rfl
    case isFalse hne => rw [decide_eq_true hne]; rfl
  apply View.ext
  · funext peerId'
    exact herased _ peerId'
  · funext r
    exact herased _ r.1
  · funext r
    exact herased _ r.1
  · funext s
    exact herased _ s.1
  · rfl
  · rfl

/-- A peer closes its receivers and its senders before it goes. -/
theorem mesh_closePeer (h : Mesh room.view) (peerId : UInt32) : Mesh (room.closePeer peerId).view := by
  obtain ⟨hmesh, halive⟩ := mesh_closeRtpReceivers (room.rtpReceiversOf peerId) h
  unfold closePeer
  dsimp only
  generalize (room.rtpReceiversOf peerId).foldl closeRtpReceiver room = room₁ at hmesh halive
  rw [view_erasePeer, view_closeTransports, view_closeRtpSenders]
  refine hmesh.dropPeer (fun r hr => Bool.eq_false_iff.2 fun hmem => ?_) fun s => mem_rtpSendersOf
  obtain ⟨hnot, hr'⟩ := halive r hmem
  exact hnot (mem_rtpReceiversOf.2 ⟨hr, hr'⟩)

/-- **The step lemma for the mesh.** -/
theorem mesh_change {room room' : Room} (h : Mesh room.view) (hchange : room.Change room') :
    Mesh room'.view := by
  cases hchange with
  | members peerId f hf =>
      rw [view_modifyPeer hf]
      exact h
  | audioLevels enabled => exact h
  | createPeer peerId peerName hnew =>
      rw [view_createPeer hnew]
      exact h
  | closePeer peerId => exact mesh_closePeer h peerId
  | setCapabilities env hpeer hnone hdata hok => exact mesh_onPeerCapabilities h hpeer hnone hok
  | createRtpReceiver kind hpeer hcapabilities hnew =>
      rw [view_createRtpReceiver kind hpeer hnew]
      refine h.arrive ?_
      change (room.peers.find? _).any (·.capabilities.isSome) = true
      rw [hpeer]
      exact hcapabilities
  | closeRtpReceiver ref => exact mesh_closeRtpReceiver h ref
  | receive env hpeer hr hp hok => exact mesh_receive h hpeer hr hok

/-- What a new room has, apart from its capabilities. -/
theorem create_ok {roomId : UInt32} {data : JsonCpp.Value} {room : Room}
    (h : Room.create roomId data = .ok room) :
    room.peers = ∅ ∧ room.mapRtpReceiverRtpSenders = ∅ ∧ room.mapRtpSenderRtpReceiver = ∅ := by
  have hcodecs : ∀ mediaCodecs (room₀ : Room) roomPayloadTypes dynamic,
      Ends (room₀.setCodecs roomPayloadTypes dynamic mediaCodecs)
        (fun room => room.peers = room₀.peers ∧
          room.mapRtpReceiverRtpSenders = room₀.mapRtpReceiverRtpSenders ∧
          room.mapRtpSenderRtpReceiver = room₀.mapRtpSenderRtpReceiver) fun _ => True := by
    intro mediaCodecs
    induction mediaCodecs with
    | nil => exact fun room₀ _ _ => ⟨rfl, rfl, rfl⟩
    | cons mediaCodec mediaCodecs ih =>
        intro room₀ roomPayloadTypes dynamic
        rw [setCodecs]
        refine ((Ends.self _).mono (fun _ _ => trivial) fun _ _ => trivial).bind fun assigned _ => ?_
        dsimp only
        split
        · split
          · exact ih _ _ _
          · trivial
        · exact ih _ _ _
  unfold Room.create at h
  split at h
  case isTrue =>
    obtain ⟨mediaCodecs, -, h⟩ := Checked.bind_eq_ok.1 h
    obtain ⟨room₁, h₁, h⟩ := Checked.bind_eq_ok.1 h
    cases h
    exact (hcodecs mediaCodecs _ _ _).of_ok h₁
  case isFalse =>
    cases h
    exact ⟨rfl, rfl, rfl⟩

/-- A new room has nobody to connect. -/
theorem mesh_create {roomId : UInt32} {data : JsonCpp.Value} {room : Room}
    (h : Room.create roomId data = .ok room) : Mesh room.view := by
  obtain ⟨hpeers, hsenders, hreceivers⟩ := create_ok h
  have hcapable : ∀ peerId, room.view.capable peerId = false := fun peerId => by
    change (room.peers.find? peerId).any _ = false
    rw [hpeers]
    rfl
  have halive : ∀ r, room.view.alive r = false := fun r => by rw [view_alive, hpeers]; rfl
  have hready : ∀ r, room.view.ready r = false := fun r => by rw [view_ready, hpeers]; rfl
  have howned : ∀ s, room.view.owned s = false := fun s => by rw [view_owned, hpeers]; rfl
  have hentry : ∀ r, room.view.rtpSenders r = none := fun r => by
    change room.mapRtpReceiverRtpSenders.find? r = none
    rw [hsenders]
    rfl
  have hnone : ∀ s, room.view.rtpReceiver s = none := fun s => by
    change room.mapRtpSenderRtpReceiver.find? s = none
    rw [hreceivers]
    rfl
  constructor <;> simp [hcapable, halive, hready, howned, hentry, hnone]

/-- **A full mesh of senders**, in the room's own terms. -/
structure FullMesh (room : Room) : Prop where
  /-- The two maps are inverse to each other. -/
  inverse : ∀ s r, (∃ rtpSenders, room.mapRtpReceiverRtpSenders.find? r = some rtpSenders ∧
    s ∈ rtpSenders) ↔ room.mapRtpSenderRtpReceiver.find? s = some r
  /-- A peer with capabilities has one sender for each receiver with parameters of another peer. -/
  complete : ∀ peerId peer ref owner r, room.peers.find? peerId = some peer →
    peer.capabilities.isSome = true → room.peers.find? ref.1 = some owner →
    owner.rtpReceivers.find? ref.2 = some r → r.rtpParameters.isSome = true → ref.1 ≠ peerId →
    ∃! id, (peer.rtpSenders.find? id).isSome = true ∧
      room.mapRtpSenderRtpReceiver.find? (peerId, id) = some ref
  /-- A sender of a peer is fed by a receiver of another peer, which is not closed. -/
  fed : ∀ s peer sender, room.peers.find? s.1 = some peer → peer.rtpSenders.find? s.2 = some sender →
    ∃ ref owner r, room.mapRtpSenderRtpReceiver.find? s = some ref ∧ ref.1 ≠ s.1 ∧
      room.peers.find? ref.1 = some owner ∧ owner.rtpReceivers.find? ref.2 = some r

/-- The mesh of the view is that of the room. -/
theorem fullMesh_of_mesh (h : Mesh room.view) : room.FullMesh where
  inverse := h.inverse
  complete := fun peerId peer ref owner r hpeer hcapabilities howner hr hparameters hne => by
    have hcapable : room.view.capable peerId = true := by
      change (room.peers.find? peerId).any _ = true
      rw [hpeer]
      exact hcapabilities
    have hready : room.view.ready ref = true := by
      rw [view_ready, howner, Option.any_some, hr]
      exact hparameters
    obtain ⟨s, rfl, hs⟩ := h.complete peerId ref hcapable hready hne not_false
    have howned : room.view.owned s = true := by rw [h.owned, hs]; rfl
    rw [view_owned, hpeer] at howned
    refine ⟨s.2, ⟨howned, hs⟩, fun id hid => ?_⟩
    exact congrArg Prod.snd (h.unique (s.1, id) s ref hid.2 hs rfl)
  fed := fun s peer sender hpeer hsender => by
    have howned : room.view.owned s = true := by
      rw [view_owned, hpeer, Option.any_some, hsender]
      rfl
    rw [h.owned] at howned
    obtain ⟨ref, href⟩ := Option.isSome_iff_exists.1 howned
    obtain ⟨owner, howner, halive⟩ := (Option.any_eq_true _ _).1 (h.alive_of_rtpReceiver href)
    obtain ⟨r, hr⟩ := Option.isSome_iff_exists.1 halive
    exact ⟨ref, owner, r, href, h.foreign s ref href, howner, hr⟩

/-- **The room is a full mesh after every run.** The ids of the senders need no assumption: a room in
which two of them clash does not go on. -/
theorem fullMesh_of_exec {roomId : UInt32} {data : JsonCpp.Value} {room room' : Room}
    {events : List RoomEvent} (hcreate : Room.create roomId data = .ok room)
    (h : Machine.exec step room events = some room') : room'.FullMesh :=
  fullMesh_of_mesh (exec_inv_of_change (fun _ _ => mesh_change) h (mesh_create hcreate))

/-- A VP8 codec with REMB, in JSON. -/
def vp8 : JsonCpp.Value :=
  .object [("kind", .string "video"), ("name", .string "video/VP8"), ("clockRate", .int 90000),
    ("payloadType", .int 100), ("rtcpFeedback", .array [.object [("type", .string "goog-remb")]])]

/-- An environment in which the senders are numbered. -/
def numbered : Environment where
  rtpSenderIds := fun n => UInt32.ofNat (10000000 + n)
  muxIds := fun _ => "abcdefgh"
  usernameFragment := "user"
  password := "password"
  candidate := fun _ _ _ => some .empty
  transportJson := fun _ _ => []
  rtpStreamJson := fun _ _ => .empty

/-- A request in this environment. -/
def numberedRequest (method : Worker.MethodId) (internal data : List (String × JsonCpp.Value)) :
    RoomEvent :=
  .request numbered { method, internal := .object internal, data := .object data }

/-- A peer with capabilities, a transport and a receiver. -/
def onePeer : List RoomEvent :=
  [numberedRequest .roomCreatePeer [("peerId", .int 1), ("peerName", .string "alice")] [],
    numberedRequest .peerSetCapabilities [("peerId", .int 1)] [("codecs", .array [vp8])],
    numberedRequest .peerCreateTransport [("peerId", .int 1), ("transportId", .int 7)] [],
    numberedRequest .peerCreateRtpReceiver
      [("peerId", .int 1), ("transportId", .int 7), ("rtpReceiverId", .int 5)]
      [("kind", .string "video")]]

/-- A second peer with capabilities, for which the receiver of the first gets parameters. -/
def twoPeers : List RoomEvent :=
  onePeer ++
    [numberedRequest .roomCreatePeer [("peerId", .int 2), ("peerName", .string "bob")] [],
      numberedRequest .peerSetCapabilities [("peerId", .int 2)] [("codecs", .array [vp8])],
      numberedRequest .rtpReceiverReceive [("peerId", .int 1), ("rtpReceiverId", .int 5)]
        [("codecs", .array [vp8]), ("encodings", .array [.object [("ssrc", .int 1111)]])]]

/-- A new room that is as a check says. -/
theorem exists_create {P : Room → Prop} {data : JsonCpp.Value} {c : Room → Bool}
    (hc : ∀ room, c room = true → P room) (h : (Room.create 1 data).toOption.any c = true) :
    ∃ room, Room.create 1 data = .ok room ∧ P room := by
  obtain ⟨room, hroom, hcheck⟩ := (Option.any_eq_true _ _).1 h
  exact ⟨room, Checked.toOption_eq_some.1 hroom, hc room hcheck⟩

/-- A run in a new room with VP8 that ends as a check says. -/
theorem exists_run {P : Room → Room → Prop} {events : List RoomEvent}
    {c : Room → Room → Bool} (hc : ∀ room room', c room room' = true → P room room')
    (h : ((Room.create 1 (.object [("mediaCodecs", .array [vp8])])).toOption.any fun room =>
      (Machine.exec step room events).any (c room)) = true) :
    ∃ room room', Room.create 1 (.object [("mediaCodecs", .array [vp8])]) = .ok room ∧
      Machine.exec step room events = some room' ∧ P room room' := by
  obtain ⟨room, hcreate, hrun⟩ := exists_create (fun room h => (Option.any_eq_true _ _).1 h) h
  obtain ⟨room', hexec, hP⟩ := hrun
  exact ⟨room, room', hcreate, hexec, hc room room' hP⟩

/-- Two peers and a receiver: the other peer has a sender for it. -/
theorem fullMesh_twoPeers : ∃ room room',
    Room.create 1 (.object [("mediaCodecs", .array [vp8])]) = .ok room ∧
      Machine.exec step room twoPeers = some room' ∧
      room'.mapRtpSenderRtpReceiver.find? (2, 10000000) = some (1, 5) ∧ room'.FullMesh := by
  have hrun : ∃ room room', Room.create 1 (.object [("mediaCodecs", .array [vp8])]) = .ok room ∧
      Machine.exec step room twoPeers = some room' ∧
      room'.mapRtpSenderRtpReceiver.find? (2, 10000000) = some (1, 5) :=
    exists_run (fun _ _ h => of_decide_eq_true h) (by decide +kernel)
  obtain ⟨room, room', hcreate, hexec, hs⟩ := hrun
  exact ⟨room, room', hcreate, hexec, hs, fullMesh_of_exec hcreate hexec⟩

end Room

end KoreWebsocket.Rtc
