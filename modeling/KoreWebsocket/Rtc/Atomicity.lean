import KoreWebsocket.Rtc.RtpListener

/-!
# The RTP listener changes all its tables or none

`AddRtpReceiver` adds the keys of a receiver one by one and rolls back when another receiver has one of
them. Until then the entries of other receivers have not changed (`Others`), so what is left when the
receiver is removed again is what the others had, and the copies of the receiver's own entries make up
the rest (`find?_restore`). The copy of `muxIdTable` is a single key, so the rollback is complete only
because a receiver never has two keys there (`MuxIdOnce`).
-/

namespace KoreWebsocket.Rtc

section
variable {κ : Type} [DecidableEq κ] {r : Nat} {t t' : Table κ Nat}

/-! ## One table -/

/-- The entries of the other receivers are the same. -/
def Others (r : Nat) (t t' : Table κ Nat) : Prop :=
  ∀ r' ≠ r, ∀ key, t'.find? key = some r' ↔ t.find? key = some r'

theorem Others.refl (r : Nat) (t : Table κ Nat) : Others r t t := fun _ _ _ => Iff.rfl

theorem Others.trans {t'' : Table κ Nat} (h : Others r t t') (h' : Others r t' t'') : Others r t t'' :=
  fun r' hne key => (h' r' hne key).trans (h r' hne key)

/-- The receiver's own entries are removed. -/
theorem others_filter (r : Nat) (t : Table κ Nat) :
    Others r t (t.filter fun _ existing => existing ≠ r) := by
  intro r' hne key
  rw [Table.find?_filter, Option.filter_eq_some_iff]
  simp [hne]

/-- A key is added that no other receiver has. -/
theorem others_insert {key : κ} (h : hasOther t key r = false) : Others r t (t.insert key r) := by
  intro r' hne key'
  rw [Table.find?_insert]
  split
  case isTrue heq =>
    rw [heq]
    constructor
    · intro hr
      exact absurd (Option.some.inj hr).symm hne
    · intro hfind
      rw [hasOther, hfind] at h
      simp [hne] at h
  case isFalse => rfl

/-- The entries of the others stay, and every key is added unless another receiver has one of them. -/
theorem addKeys_spec (r : Nat) (keys : List κ) (t : Table κ Nat) :
    Others r t (addKeys r keys t).1 ∧
      ((addKeys r keys t).2 = none →
        ∀ key, (addKeys r keys t).1.find? key = if key ∈ keys then some r else t.find? key) := by
  induction keys generalizing t with
  | nil => exact ⟨Others.refl r t, fun _ key => rfl⟩
  | cons k keys ih =>
      unfold addKeys
      split
      case isTrue h => exact ⟨Others.refl r t, fun hnone => (by cases hnone)⟩
      case isFalse h =>
        obtain ⟨hothers, hfind⟩ := ih (t.insert k r)
        refine ⟨(others_insert (Bool.eq_false_iff.2 h)).trans hothers, fun hnone key => ?_⟩
        rw [hfind hnone, Table.find?_insert]
        by_cases hmem : key ∈ keys
        · rw [if_pos hmem, if_pos (List.mem_cons_of_mem _ hmem)]
        · rw [if_neg hmem]
          by_cases hk : key = k
          · rw [if_pos hk, if_pos (by rw [hk]; exact List.mem_cons_self)]
          · rw [if_neg hk, if_neg (by rw [List.mem_cons, not_or]; exact ⟨hk, hmem⟩)]

/-- **The rollback of a table.** However the receiver's own entries have changed, removing them and
adding the copy again gives the table back. -/
theorem find?_restore (h : Others r t t') :
    ((t.keysWhere (· = r)).foldl (fun t key => t.insert key r)
      (t'.filter fun _ existing => existing ≠ r)).find? = t.find? := by
  funext key
  rw [Table.find?_foldl_insert, Table.find?_filter]
  by_cases hown : t.find? key = some r
  · rw [if_pos (by rw [Table.mem_keysWhere]; exact ⟨r, hown, by simp⟩), hown]
  · rw [if_neg]
    · apply Option.ext
      intro r'
      rw [Option.filter_eq_some_iff]
      by_cases hr : r' = r
      · rw [hr]
        simp [hown]
      · rw [h r' hr]
        simp [hr]
    · rw [Table.mem_keysWhere]
      rintro ⟨r', hfind, hr⟩
      rw [of_decide_eq_true hr] at hfind
      exact hown hfind

/-- After the receiver's entries are removed and keys are added, its entries are these keys. -/
theorem own_addKeys {keys : List κ}
    (h : addKeys r keys (t.filter fun _ existing => existing ≠ r) = (t', none)) (key : κ) :
    t'.find? key = some r ↔ key ∈ keys := by
  have hfind := (addKeys_spec r keys (t.filter fun _ existing => existing ≠ r)).2
  rw [h] at hfind
  rw [hfind rfl, Table.find?_filter]
  split
  case isTrue hmem => simp [hmem]
  case isFalse hmem =>
    rw [Option.filter_eq_some_iff]
    simp [hmem]

end

/-! ## The states of the listener -/

namespace RtpListener

/-- No receiver has two keys in `muxIdTable`, and none has the empty one. -/
def MuxIdOnce (l : RtpListener) : Prop :=
  l.muxIdTable.find? "" = none ∧
    ∀ r muxId muxId', l.muxIdTable.find? muxId = some r → l.muxIdTable.find? muxId' = some r →
      muxId = muxId'

variable {l l' : RtpListener} {r : Nat} {p : RtpParameters}

/-- The entries of the other receivers are the same in all three tables. -/
structure OthersKept (r : Nat) (l l' : RtpListener) : Prop where
  ssrcTable : Others r l.ssrcTable l'.ssrcTable
  muxIdTable : Others r l.muxIdTable l'.muxIdTable
  ptTable : Others r l.ptTable l'.ptTable

/-- The tables are the same. -/
structure Same (l l' : RtpListener) : Prop where
  ssrcTable : l'.ssrcTable.find? = l.ssrcTable.find?
  muxIdTable : l'.muxIdTable.find? = l.muxIdTable.find?
  ptTable : l'.ptTable.find? = l.ptTable.find?

/-- The receiver's entries are those that the parameters declare. -/
structure Declared (r : Nat) (p : RtpParameters) (l' : RtpListener) : Prop where
  ssrcTable : ∀ ssrc, l'.ssrcTable.find? ssrc = some r ↔ ssrc ∈ p.ssrcs
  muxIdTable : ∀ muxId, l'.muxIdTable.find? muxId = some r ↔ muxId ∈ p.muxIds
  ptTable : ∀ payloadType, l'.ptTable.find? payloadType = some r ↔ payloadType ∈ p.payloadTypes

/-- Equal tables keep everything. -/
theorem Same.othersKept (h : Same l l') : OthersKept r l l' where
  ssrcTable := fun r' _ key => by rw [h.ssrcTable]
  muxIdTable := fun r' _ key => by rw [h.muxIdTable]
  ptTable := fun r' _ key => by rw [h.ptTable]

/-- A receiver is removed, and the others stay. -/
theorem othersKept_remove (r : Nat) (l : RtpListener) : OthersKept r l (l.removeRtpReceiver r) :=
  ⟨others_filter r _, others_filter r _, others_filter r _⟩

/-- The single key that is copied is all that the receiver has in `muxIdTable`. -/
theorem MuxIdOnce.find?_restore (h : l.MuxIdOnce) (t : Table String Nat) :
    (if ((l.muxIdTable.keysWhere (· = r)).head?).getD "" = "" then t
      else t.insert (((l.muxIdTable.keysWhere (· = r)).head?).getD "") r).find? =
    ((l.muxIdTable.keysWhere (· = r)).foldl (fun t muxId => t.insert muxId r) t).find? := by
  have hown : ∀ muxId ∈ l.muxIdTable.keysWhere (· = r), l.muxIdTable.find? muxId = some r := by
    intro muxId hmem
    rw [Table.mem_keysWhere] at hmem
    obtain ⟨r', hfind, hr⟩ := hmem
    rw [hfind, of_decide_eq_true hr]
  funext muxId
  rw [Table.find?_foldl_insert]
  cases hkeys : l.muxIdTable.keysWhere (· = r) with
  | nil => rfl
  | cons first rest =>
      rw [hkeys] at hown
      have hfirst := hown first List.mem_cons_self
      have hne : first ≠ "" := by
        rintro rfl
        rw [h.1] at hfirst
        cases hfirst
      have hmem : muxId ∈ first :: rest ↔ muxId = first := by
        constructor
        · intro hmem
          exact h.2 r _ _ (hown muxId hmem) hfirst
        · rintro rfl
          exact List.mem_cons_self
      rw [List.head?_cons, Option.getD_some, if_neg hne, Table.find?_insert]
      simp only [hmem]

/-- **The rollback.** It gives the three tables back from every listener in which the entries of the
others have not changed. -/
theorem MuxIdOnce.rollback (h : l.MuxIdOnce) (l' : RtpListener) (hothers : OthersKept r l l') :
    Same l ((l'.removeRtpReceiver r).rollbackRtpReceiver r (l.ssrcTable.keysWhere (· = r))
      (((l.muxIdTable.keysWhere (· = r)).head?).getD "") (l.ptTable.keysWhere (· = r))) where
  ssrcTable := Rtc.find?_restore hothers.ssrcTable
  muxIdTable := (h.find?_restore _).trans (Rtc.find?_restore hothers.muxIdTable)
  ptTable := Rtc.find?_restore hothers.ptTable

/-- **Everything `AddRtpReceiver` can do.** It throws and leaves the tables as they are, or it succeeds
and the receiver's entries are those of the parameters. The entries of the others stay in both cases. -/
theorem MuxIdOnce.addRtpReceiver (h : l.MuxIdOnce) (r : Nat) (p : RtpParameters) :
    (((l.addRtpReceiver r p).2 ≠ none ∧ Same l (l.addRtpReceiver r p).1) ∨
      ((l.addRtpReceiver r p).2 = none ∧ Declared r p (l.addRtpReceiver r p).1)) ∧
      OthersKept r l (l.addRtpReceiver r p).1 := by
  have hremove := othersKept_remove r l
  have hssrc := addKeys_spec r p.ssrcs (l.removeRtpReceiver r).ssrcTable
  have hmuxId := addKeys_spec r p.muxIds (l.removeRtpReceiver r).muxIdTable
  have hpt := addKeys_spec r p.payloadTypes (l.removeRtpReceiver r).ptTable
  unfold RtpListener.addRtpReceiver
  dsimp only
  split
  case h_1 ssrcTable ssrc heq =>
    rw [heq] at hssrc
    have hsame := h.rollback { l.removeRtpReceiver r with ssrcTable }
      ⟨hremove.ssrcTable.trans hssrc.1, hremove.muxIdTable, hremove.ptTable⟩
    exact ⟨.inl ⟨Option.some_ne_none _, hsame⟩, hsame.othersKept⟩
  case h_2 ssrcTable heqSsrc =>
    rw [heqSsrc] at hssrc
    split
    case h_1 muxIdTable muxId heq =>
      rw [heq] at hmuxId
      have hsame := h.rollback { l.removeRtpReceiver r with ssrcTable, muxIdTable }
        ⟨hremove.ssrcTable.trans hssrc.1, hremove.muxIdTable.trans hmuxId.1, hremove.ptTable⟩
      exact ⟨.inl ⟨Option.some_ne_none _, hsame⟩, hsame.othersKept⟩
    case h_2 muxIdTable heqMuxId =>
      rw [heqMuxId] at hmuxId
      split
      case h_1 ptTable payloadType heq =>
        rw [heq] at hpt
        have hsame := h.rollback { ssrcTable, muxIdTable, ptTable }
          ⟨hremove.ssrcTable.trans hssrc.1, hremove.muxIdTable.trans hmuxId.1,
            hremove.ptTable.trans hpt.1⟩
        exact ⟨.inl ⟨Option.some_ne_none _, hsame⟩, hsame.othersKept⟩
      case h_2 ptTable heqPt =>
        rw [heqPt] at hpt
        refine ⟨.inr ⟨rfl, ?_, ?_, ?_⟩, hremove.ssrcTable.trans hssrc.1,
          hremove.muxIdTable.trans hmuxId.1, hremove.ptTable.trans hpt.1⟩
        · exact own_addKeys heqSsrc
        · exact own_addKeys heqMuxId
        · exact own_addKeys heqPt

/-- Equal tables have the same MUX ids. -/
theorem MuxIdOnce.of_same (h : l.MuxIdOnce) (hsame : Same l l') : l'.MuxIdOnce := by
  unfold MuxIdOnce
  rw [hsame.muxIdTable]
  exact h

/-- The others keep their keys, and the receiver has those of a list with at most one key. -/
theorem MuxIdOnce.of_others (h : l.MuxIdOnce) (hothers : Others r l.muxIdTable l'.muxIdTable)
    (muxIds : List String) (hown : ∀ muxId, l'.muxIdTable.find? muxId = some r ↔ muxId ∈ muxIds)
    (hempty : "" ∉ muxIds) (honce : ∀ muxId ∈ muxIds, ∀ muxId' ∈ muxIds, muxId = muxId') :
    l'.MuxIdOnce := by
  refine ⟨?_, fun r' muxId muxId' hfind hfind' => ?_⟩
  · cases hfind : l'.muxIdTable.find? "" with
    | none => rfl
    | some r' =>
        by_cases hr : r' = r
        · rw [hr] at hfind
          exact absurd ((hown "").1 hfind) hempty
        · rw [hothers r' hr, h.1] at hfind
          cases hfind
  · by_cases hr : r' = r
    · rw [hr] at hfind hfind'
      exact honce muxId ((hown muxId).1 hfind) muxId' ((hown muxId').1 hfind')
    · rw [hothers r' hr] at hfind hfind'
      exact h.2 r' muxId muxId' hfind hfind'

/-- An empty MUX id is none. -/
theorem mem_muxIds {muxId : String} : muxId ∈ p.muxIds ↔ muxId ≠ "" ∧ muxId = p.muxId := by
  unfold RtpParameters.muxIds
  split
  case isTrue h =>
    rw [h]
    simp
  case isFalse h =>
    rw [List.mem_singleton]
    constructor
    · rintro rfl
      exact ⟨h, rfl⟩
    · exact And.right

end RtpListener

/-- The calls of a listener. -/
inductive Call
  | addRtpReceiver (rtpReceiver : Nat) (p : RtpParameters)
  | removeRtpReceiver (rtpReceiver : Nat)
  | getRtpReceiver (codecs : Nat → List UInt8) (ssrc : UInt32) (payloadType : UInt8)

namespace RtpListener

/-- The listener after a call. -/
def call (l : RtpListener) : Call → RtpListener
  | .addRtpReceiver rtpReceiver p => (l.addRtpReceiver rtpReceiver p).1
  | .removeRtpReceiver rtpReceiver => l.removeRtpReceiver rtpReceiver
  | .getRtpReceiver codecs ssrc payloadType => (l.getRtpReceiver codecs ssrc payloadType).2

/-- The listener after a sequence of calls. -/
def run (calls : List Call) : RtpListener := calls.foldl call {}

/-- A packet teaches SSRCs, and no MUX id. -/
theorem getRtpReceiver_muxIdTable (l : RtpListener) (codecs : Nat → List UInt8) (ssrc : UInt32)
    (payloadType : UInt8) :
    (l.getRtpReceiver codecs ssrc payloadType).2.muxIdTable = l.muxIdTable := by
  unfold getRtpReceiver
  split
  · rfl
  · split <;> rfl

/-- Every call keeps the MUX ids apart. -/
theorem MuxIdOnce.call {l : RtpListener} (h : l.MuxIdOnce) (c : Call) : (l.call c).MuxIdOnce := by
  cases c with
  | addRtpReceiver r p =>
      obtain ⟨⟨-, hsame⟩ | ⟨-, hdeclared⟩, hothers⟩ := h.addRtpReceiver r p
      · exact h.of_same hsame
      · refine h.of_others hothers.muxIdTable p.muxIds hdeclared.muxIdTable ?_ ?_
        · rw [mem_muxIds]
          exact fun hmem => hmem.1 rfl
        · intro muxId hmem muxId' hmem'
          rw [(mem_muxIds.1 hmem).2, (mem_muxIds.1 hmem').2]
  | removeRtpReceiver r =>
      refine h.of_others (others_filter r _) [] (fun muxId => ?_) List.not_mem_nil nofun
      rw [RtpListener.call, RtpListener.removeRtpReceiver, Table.find?_filter,
        Option.filter_eq_some_iff]
      simp
  | getRtpReceiver codecs ssrc payloadType =>
      change (l.getRtpReceiver codecs ssrc payloadType).2.MuxIdOnce
      unfold MuxIdOnce
      rw [getRtpReceiver_muxIdTable]
      exact h

/-- The MUX ids are apart in every run. -/
theorem muxIdOnce_run (calls : List Call) : (run calls).MuxIdOnce := by
  have hstart : ∀ l : RtpListener, l.MuxIdOnce → (calls.foldl RtpListener.call l).MuxIdOnce := by
    induction calls with
    | nil => exact fun l h => h
    | cons c calls ih => exact fun l h => ih _ (h.call c)
  exact hstart {} ⟨rfl, nofun⟩

/-- **Atomicity.** After every sequence of calls, and for every receiver and parameters,
`AddRtpReceiver` either throws and leaves the three tables as they were, or succeeds and then the
receiver's entries are exactly those its parameters declare; and no entry of another receiver changes. -/
theorem addRtpReceiver_atomic (calls : List Call) (r : Nat) (p : RtpParameters) :
    (((run calls).addRtpReceiver r p).2 ≠ none ∧
        Same (run calls) ((run calls).addRtpReceiver r p).1 ∨
      ((run calls).addRtpReceiver r p).2 = none ∧
        Declared r p ((run calls).addRtpReceiver r p).1) ∧
      OthersKept r (run calls) ((run calls).addRtpReceiver r p).1 :=
  (muxIdOnce_run calls).addRtpReceiver r p

end RtpListener

end KoreWebsocket.Rtc
