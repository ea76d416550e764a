import KoreWebsocket.Rtc.Room

/-!
# Payload types of a room (`Room::SetCapabilities`)

The codecs of a room and the RTX codecs of its video codecs are to have different payload types. A codec
without a payload type gets a dynamic one that no codec has, and so does every RTX codec; the dynamic ones
are passed once, so no two of these clash. What is not looked at is that a codec may bring a payload type
that an RTX codec has, or that its own RTX codec is about to get, and that a payload type which is used
already stays when no dynamic one is left (`setCapabilities_unique_iff`).
-/

namespace KoreWebsocket.Rtc

namespace Room

variable (room : Room)

def codecPayloadTypes : List UInt8 := room.capabilities.codecs.map (·.payloadType)

def rtxPayloadTypes : List UInt8 := room.mapPayloadRtxCodecParameters.entries.map (·.2.payloadType)

/-- Every video codec has an RTX codec for it. -/
def VideoHasRtx : Prop :=
  ∀ codec ∈ room.capabilities.codecs, codec.kind = .video → ∃ rtx,
    room.mapPayloadRtxCodecParameters.find? codec.payloadType = some rtx ∧
      rtx.parameters.getInteger "apt" = .ok codec.payloadType.toNat

/-- All payload types differ, and every video codec has an RTX codec. -/
structure UniquePayloadTypes : Prop where
  distinct : (room.codecPayloadTypes ++ room.rtxPayloadTypes).Nodup
  rtx : room.VideoHasRtx

/-- A codec brings no payload type that clashes, where the codecs before it have the payload types
`roomPayloadTypes` and left the dynamic ones `dynamic`. A payload type that is not used is not a dynamic
one that was passed, which an RTX codec has, and not the next one for its own RTX codec; instead of one
that is used there is a dynamic one. -/
def Brings (roomPayloadTypes dynamic : List UInt8) (mediaCodec : RtpCodecParameters) : Prop :=
  mediaCodec.hasPayloadType = true →
    if mediaCodec.payloadType ∉ roomPayloadTypes then
      (mediaCodec.payloadType ∈ dynamicPayloadTypes → mediaCodec.payloadType ∈ dynamic) ∧
        (mediaCodec.kind = .video →
          (nextPayloadType roomPayloadTypes dynamic).1 ≠ some mediaCodec.payloadType)
    else (nextPayloadType roomPayloadTypes dynamic).1 ≠ none

/-- Every codec of a list brings none. -/
def BringAll : (roomPayloadTypes dynamic : List UInt8) → List RtpCodecParameters → Prop
  | _, _, [] => True
  | roomPayloadTypes, dynamic, mediaCodec :: mediaCodecs =>
      Brings roomPayloadTypes dynamic mediaCodec ∧
        match assignPayloadType roomPayloadTypes dynamic mediaCodec with
        | .ok (mediaCodec, dynamic) =>
            BringAll (mediaCodec.payloadType :: roomPayloadTypes)
              (if mediaCodec.kind = .video then (nextPayloadType roomPayloadTypes dynamic).2 else dynamic)
              mediaCodecs
        | .error _ => True

/-! ## What the loop does -/

section
variable {room} {roomPayloadTypes dynamic dynamic' : List UInt8} {payloadType : UInt8}
  {mediaCodec assigned : RtpCodecParameters} {mediaCodecs : List RtpCodecParameters} {room' : Room}

/-- The next dynamic payload type is the first that is not used. -/
theorem nextPayloadType_some
    (h : nextPayloadType roomPayloadTypes dynamic = (some payloadType, dynamic')) :
    payloadType ∉ roomPayloadTypes ∧ ∃ used, dynamic = used ++ payloadType :: dynamic' ∧
      ∀ pt ∈ used, pt ∈ roomPayloadTypes := by
  induction dynamic with
  | nil => cases h
  | cons pt dynamic ih =>
      rw [nextPayloadType] at h
      split at h
      case isTrue hmem =>
        obtain ⟨hnot, used, hdynamic, hused⟩ := ih h
        refine ⟨hnot, pt :: used, ?_, List.forall_mem_cons.2 ⟨hmem, hused⟩⟩
        rw [hdynamic, List.cons_append]
      case isFalse hmem =>
        cases h
        exact ⟨hmem, [], rfl, List.forall_mem_nil _⟩

/-- The room with another codec. -/
def stored (room : Room) (mediaCodec : RtpCodecParameters) : Room :=
  { room with
    capabilities := { room.capabilities with codecs := room.capabilities.codecs ++ [mediaCodec] } }

/-- The room with another video codec and its RTX codec. -/
def storedRtx (room : Room) (mediaCodec : RtpCodecParameters) (payloadType : UInt8) : Room :=
  { room.stored mediaCodec with
    mapPayloadRtxCodecParameters := room.mapPayloadRtxCodecParameters.insert mediaCodec.payloadType
      (rtxCodec mediaCodec payloadType) }

/-- One round of the loop. -/
theorem setCodecs_cons
    (h : room.setCodecs roomPayloadTypes dynamic (mediaCodec :: mediaCodecs) = .ok room') :
    ∃ assigned dynamic', assignPayloadType roomPayloadTypes dynamic mediaCodec = .ok (assigned, dynamic') ∧
      (assigned.kind ≠ .video ∧ (room.stored assigned).setCodecs
          (assigned.payloadType :: roomPayloadTypes) dynamic' mediaCodecs = .ok room' ∨
        assigned.kind = .video ∧ ∃ payloadType rest,
          nextPayloadType roomPayloadTypes dynamic' = (some payloadType, rest) ∧
          (room.storedRtx assigned payloadType).setCodecs
            (assigned.payloadType :: roomPayloadTypes) rest mediaCodecs = .ok room') := by
  rw [setCodecs] at h
  obtain ⟨⟨assigned, dynamic'⟩, hassign, h⟩ := Checked.bind_eq_ok.1 h
  refine ⟨assigned, dynamic', hassign, ?_⟩
  dsimp only at h
  split at h
  case isTrue hvideo =>
    refine .inr ⟨hvideo, ?_⟩
    split at h
    case h_1 payloadType rest hnext => exact ⟨payloadType, rest, hnext, h⟩
    case h_2 => cases h
  case isFalse hvideo => exact .inl ⟨hvideo, h⟩

/-- The payload type of a codec is its own, a dynamic one, or its own although it is used. -/
theorem assignPayloadType_ok
    (h : assignPayloadType roomPayloadTypes dynamic mediaCodec = .ok (assigned, dynamic')) :
    (mediaCodec.hasPayloadType = true ∧ mediaCodec.payloadType ∉ roomPayloadTypes ∧
        assigned = mediaCodec ∧ dynamic' = dynamic) ∨
      (¬ (mediaCodec.hasPayloadType = true ∧ mediaCodec.payloadType ∉ roomPayloadTypes) ∧
        nextPayloadType roomPayloadTypes dynamic = (some assigned.payloadType, dynamic')) ∨
      (mediaCodec.hasPayloadType = true ∧ mediaCodec.payloadType ∈ roomPayloadTypes ∧
        (nextPayloadType roomPayloadTypes dynamic).1 = none ∧ assigned = mediaCodec) := by
  rw [assignPayloadType] at h
  split at h
  case isTrue hown =>
    cases h
    exact .inl ⟨hown.1, hown.2, rfl, rfl⟩
  case isFalse hown =>
    split at h
    case h_1 payloadType rest hnext =>
      cases h
      exact .inr (.inl ⟨hown, hnext⟩)
    case h_2 rest hnext =>
      split at h
      case isTrue hhas =>
        cases h
        refine .inr (.inr ⟨hhas, ?_, congrArg Prod.fst hnext, rfl⟩)
        by_contra hnot
        exact hown ⟨hhas, hnot⟩
      case isFalse => cases h

end

/-! ## Clashes stay -/

/-- Two codecs have the same payload type, or a codec and the RTX codec of one. -/
def Clashes (room : Room) : Prop :=
  ¬ room.codecPayloadTypes.Nodup ∨ ∃ key ∈ room.codecPayloadTypes, ∃ rtx,
    room.mapPayloadRtxCodecParameters.find? key = some rtx ∧ rtx.payloadType ∈ room.codecPayloadTypes

section
variable {room room' : Room} {roomPayloadTypes dynamic dynamic' : List UInt8} {payloadType : UInt8}
  {mediaCodec assigned : RtpCodecParameters} {mediaCodecs : List RtpCodecParameters}

/-- The payload types of the RTX codecs are those in the map. -/
theorem mem_rtxPayloadTypes : payloadType ∈ room.rtxPayloadTypes ↔
    ∃ key rtx, room.mapPayloadRtxCodecParameters.find? key = some rtx ∧ rtx.payloadType = payloadType := by
  rw [rtxPayloadTypes, List.mem_map]
  constructor
  · rintro ⟨⟨key, rtx⟩, hmem, rfl⟩
    exact ⟨key, rtx, (Table.find?_eq_some _).2 hmem, rfl⟩
  · rintro ⟨key, rtx, hfind, rfl⟩
    exact ⟨(key, rtx), (Table.find?_eq_some _).1 hfind, rfl⟩

/-- A clash is a payload type that two codecs have. -/
theorem Clashes.not_unique (h : room.Clashes) : ¬ room.UniquePayloadTypes := by
  intro hunique
  obtain ⟨hcodecs, -, hdisjoint⟩ := List.nodup_append.1 hunique.distinct
  rcases h with hdup | ⟨key, -, rtx, hfind, hmem⟩
  · exact hdup hcodecs
  · exact hdisjoint _ hmem _ (mem_rtxPayloadTypes.2 ⟨key, rtx, hfind, rfl⟩) rfl

/-- A codec is stored with its payload type. -/
theorem codecPayloadTypes_stored (room : Room) (mediaCodec : RtpCodecParameters) :
    (room.stored mediaCodec).codecPayloadTypes = room.codecPayloadTypes ++ [mediaCodec.payloadType] :=
  List.map_append

/-- A room with another codec, whose RTX codec is the only one that may be new. -/
structure Extends (room : Room) (mediaCodec : RtpCodecParameters) (room' : Room) : Prop where
  codecs : room'.codecPayloadTypes = room.codecPayloadTypes ++ [mediaCodec.payloadType]
  rtx : ∀ key, key ≠ mediaCodec.payloadType →
    room'.mapPayloadRtxCodecParameters.find? key = room.mapPayloadRtxCodecParameters.find? key

/-- A codec that is stored comes behind the others. -/
theorem extends_stored (room : Room) (mediaCodec : RtpCodecParameters) :
    room.Extends mediaCodec (room.stored mediaCodec) :=
  ⟨codecPayloadTypes_stored room mediaCodec, fun _ _ => rfl⟩

/-- A codec that is stored with its RTX codec comes behind the others. -/
theorem extends_storedRtx (room : Room) (mediaCodec : RtpCodecParameters) (payloadType : UInt8) :
    room.Extends mediaCodec (room.storedRtx mediaCodec payloadType) :=
  ⟨codecPayloadTypes_stored room mediaCodec,
    fun _ hne => (Table.find?_insert _ _ _ _).trans (if_neg hne)⟩

/-- A codec that was stored is among the codecs. -/
theorem Extends.mem (h : room.Extends mediaCodec room') :
    mediaCodec.payloadType ∈ room'.codecPayloadTypes := by
  rw [h.codecs]
  exact List.mem_append_right _ (List.mem_singleton.2 rfl)

/-- The codecs that were there before are among the codecs. -/
theorem Extends.mem_old (h : room.Extends mediaCodec room') (hmem : payloadType ∈ room.codecPayloadTypes) :
    payloadType ∈ room'.codecPayloadTypes := by
  rw [h.codecs]
  exact List.mem_append_left _ hmem

/-- Another codec with a payload type that is there. -/
theorem Extends.clashes (h : room.Extends mediaCodec room')
    (hmem : mediaCodec.payloadType ∈ room.codecPayloadTypes) : room'.Clashes := by
  refine .inl fun hnodup => ?_
  rw [h.codecs] at hnodup
  exact (List.nodup_append.1 hnodup).2.2 _ hmem _ (List.mem_singleton.2 rfl) rfl

/-- A clash is there also with another codec: if its RTX codec takes the place of one, both have the
same payload type. -/
theorem Clashes.grows (h : room.Clashes) (hext : room.Extends mediaCodec room') : room'.Clashes := by
  rcases h with hdup | ⟨key, hkey, rtx, hfind, hmem⟩
  · refine .inl fun hnodup => hdup ?_
    rw [hext.codecs] at hnodup
    exact (List.nodup_append.1 hnodup).1
  · by_cases heq : key = mediaCodec.payloadType
    · rw [heq] at hkey
      exact hext.clashes hkey
    · refine .inr ⟨key, hext.mem_old hkey, rtx, ?_, hext.mem_old hmem⟩
      rw [hext.rtx key heq, hfind]

/-- **A clash is never undone.** -/
theorem Clashes.setCodecs (h : room.Clashes)
    (hset : room.setCodecs roomPayloadTypes dynamic mediaCodecs = .ok room') : room'.Clashes := by
  induction mediaCodecs generalizing room roomPayloadTypes dynamic with
  | nil =>
      cases hset
      exact h
  | cons mediaCodec mediaCodecs ih =>
      obtain ⟨assigned, dynamic', -, hround⟩ := setCodecs_cons hset
      rcases hround with ⟨-, hset⟩ | ⟨-, payloadType, rest, -, hset⟩
      · exact ih (h.grows (extends_stored room assigned)) hset
      · exact ih (h.grows (extends_storedRtx room assigned payloadType)) hset

/-! ## What the loop keeps -/

/-- The loop without a clash: the room so far, the payload types that its codecs have, and the dynamic ones
that are left. -/
structure Assigned (room : Room) (roomPayloadTypes dynamic : List UInt8) : Prop where
  distinct : (room.codecPayloadTypes ++ room.rtxPayloadTypes).Nodup
  used : ∀ pt, pt ∈ roomPayloadTypes ↔ pt ∈ room.codecPayloadTypes
  keys : ∀ key rtx, room.mapPayloadRtxCodecParameters.find? key = some rtx → key ∈ roomPayloadTypes
  left : dynamic <:+ dynamicPayloadTypes
  passed : ∀ pt ∈ dynamicPayloadTypes, pt ∉ dynamic → pt ∈ roomPayloadTypes ∨ pt ∈ room.rtxPayloadTypes
  rtx : ∀ pt ∈ room.rtxPayloadTypes, pt ∈ dynamicPayloadTypes ∧ pt ∉ dynamic

/-- A payload type is taken from the dynamic ones: `dynamic'` are left, and those passed are used. -/
structure Takes (roomPayloadTypes dynamic dynamic' : List UInt8) (payloadType : UInt8) : Prop where
  notUsed : payloadType ∉ roomPayloadTypes
  mem : payloadType ∈ dynamic
  left : dynamic' <:+ dynamic
  notLeft : payloadType ∉ dynamic'
  passed : ∀ pt ∈ dynamic, pt ∉ dynamic' → pt = payloadType ∨ pt ∈ roomPayloadTypes

/-- The next dynamic payload type is taken. -/
theorem nextPayloadType_takes (hleft : dynamic <:+ dynamicPayloadTypes)
    (hnext : nextPayloadType roomPayloadTypes dynamic = (some payloadType, dynamic')) :
    Takes roomPayloadTypes dynamic dynamic' payloadType := by
  obtain ⟨hnot, used, hdynamic, hused⟩ := nextPayloadType_some hnext
  have hnodup : dynamic.Nodup := (show dynamicPayloadTypes.Nodup by decide).sublist hleft.sublist
  rw [hdynamic] at hnodup
  refine ⟨hnot, ?_, ?_, ?_, fun pt hpt hpassed => ?_⟩
  · rw [hdynamic]
    exact List.mem_append_right _ List.mem_cons_self
  · exact ⟨used ++ [payloadType], by rw [hdynamic, List.append_assoc]; rfl⟩
  · exact (List.nodup_cons.1 (List.nodup_append.1 hnodup).2.1).1
  · rw [hdynamic] at hpt
    rcases List.mem_append.1 hpt with hpt | hpt
    · exact .inr (hused pt hpt)
    · exact (List.mem_cons.1 hpt).imp_right fun hpt => absurd hpt hpassed

/-- A codec with a new payload type: its own, or one that is taken. -/
theorem Assigned.stored (h : Assigned room roomPayloadTypes dynamic)
    (hused : assigned.payloadType ∉ roomPayloadTypes) (hrtx : assigned.payloadType ∉ room.rtxPayloadTypes)
    (hleft : dynamic' <:+ dynamic)
    (hpassed : ∀ pt ∈ dynamic, pt ∉ dynamic' → pt = assigned.payloadType ∨ pt ∈ roomPayloadTypes) :
    Assigned (room.stored assigned) (assigned.payloadType :: roomPayloadTypes) dynamic' where
  distinct := by
    have hcodecs : assigned.payloadType ∉ room.codecPayloadTypes := fun hmem => hused ((h.used _).2 hmem)
    have hnodup : (assigned.payloadType :: (room.codecPayloadTypes ++ room.rtxPayloadTypes)).Nodup :=
      List.nodup_cons.2 ⟨fun hmem => (List.mem_append.1 hmem).elim hcodecs hrtx, h.distinct⟩
    rw [codecPayloadTypes_stored]
    refine (List.Perm.nodup_iff ?_).1 hnodup
    rw [List.append_assoc]
    exact List.perm_middle.symm
  used := by
    intro pt
    rw [codecPayloadTypes_stored, List.mem_cons, List.mem_append, List.mem_singleton, h.used, or_comm]
  keys := fun key rtx hfind => List.mem_cons_of_mem _ (h.keys key rtx hfind)
  left := hleft.trans h.left
  passed := by
    intro pt hpt hnot
    by_cases hmem : pt ∈ dynamic
    · exact .inl (List.mem_cons.2 (hpassed pt hmem hnot))
    · exact (h.passed pt hpt hmem).imp_left (List.mem_cons_of_mem _)
  rtx := fun pt hpt => ⟨(h.rtx pt hpt).1, fun hmem => (h.rtx pt hpt).2 (hleft.mem hmem)⟩

/-- The RTX codec is stored with its payload type. -/
theorem rtxPayloadTypes_storedRtx
    (hkey : room.mapPayloadRtxCodecParameters.find? assigned.payloadType = none) :
    (room.storedRtx assigned payloadType).rtxPayloadTypes = payloadType :: room.rtxPayloadTypes := by
  have hentries := congrArg Table.entries (Table.erase_of_find?_none _ hkey)
  change payloadType :: (room.mapPayloadRtxCodecParameters.erase assigned.payloadType).entries.map _ = _
  rw [hentries, rtxPayloadTypes]

/-- A video codec with its RTX codec. -/
theorem Assigned.storedRtx (h : Assigned (room.stored assigned) roomPayloadTypes dynamic)
    (hkey : room.mapPayloadRtxCodecParameters.find? assigned.payloadType = none)
    (htakes : Takes roomPayloadTypes dynamic dynamic' payloadType) :
    Assigned (room.storedRtx assigned payloadType) roomPayloadTypes dynamic' where
  distinct := by
    have hcodecs : payloadType ∉ (room.stored assigned).codecPayloadTypes :=
      fun hmem => htakes.notUsed ((h.used _).2 hmem)
    have hrtx : payloadType ∉ (room.stored assigned).rtxPayloadTypes :=
      fun hmem => (h.rtx _ hmem).2 htakes.mem
    have hnodup := List.nodup_cons.2
      ⟨fun hmem => (List.mem_append.1 hmem).elim hcodecs hrtx, h.distinct⟩
    rw [rtxPayloadTypes_storedRtx hkey]
    exact (List.Perm.nodup_iff List.perm_middle.symm).1 hnodup
  used := h.used
  keys := by
    intro key rtx hfind
    have hinsert := (Table.find?_insert room.mapPayloadRtxCodecParameters assigned.payloadType
      (rtxCodec assigned payloadType) key).symm.trans hfind
    split at hinsert
    case isTrue heq =>
      rw [h.used, heq, codecPayloadTypes_stored]
      exact List.mem_append_right _ (List.mem_singleton.2 rfl)
    case isFalse => exact h.keys key rtx hinsert
  left := htakes.left.trans h.left
  passed := by
    intro pt hpt hnot
    rw [rtxPayloadTypes_storedRtx hkey, List.mem_cons]
    by_cases hmem : pt ∈ dynamic
    · exact (htakes.passed pt hmem hnot).elim (fun heq => .inr (.inl heq)) .inl
    · exact (h.passed pt hpt hmem).imp_right .inr
  rtx := by
    intro pt hpt
    rw [rtxPayloadTypes_storedRtx hkey] at hpt
    rcases List.mem_cons.1 hpt with rfl | hold
    · exact ⟨h.left.mem htakes.mem, htakes.notLeft⟩
    · exact ⟨(h.rtx pt hold).1, fun hmem => (h.rtx pt hold).2 (htakes.left.mem hmem)⟩

/-- A codec of another kind needs no RTX codec. -/
theorem VideoHasRtx.stored (h : room.VideoHasRtx) (haudio : assigned.kind ≠ .video) :
    (room.stored assigned).VideoHasRtx := by
  intro codec hmem hvideo
  rcases List.mem_append.1 hmem with hmem | hmem
  · exact h codec hmem hvideo
  · rw [List.mem_singleton.1 hmem] at hvideo
    exact absurd hvideo haudio

/-- A video codec is stored with its own. -/
theorem VideoHasRtx.storedRtx (h : room.VideoHasRtx)
    (hkey : room.mapPayloadRtxCodecParameters.find? assigned.payloadType = none)
    (payloadType : UInt8) : (room.storedRtx assigned payloadType).VideoHasRtx := by
  intro codec hmem hvideo
  have hinsert := Table.find?_insert room.mapPayloadRtxCodecParameters assigned.payloadType
    (rtxCodec assigned payloadType) codec.payloadType
  rcases List.mem_append.1 hmem with hmem | hmem
  · obtain ⟨rtx, hfind, hapt⟩ := h codec hmem hvideo
    refine ⟨rtx, hinsert.trans ?_, hapt⟩
    rw [if_neg, hfind]
    intro heq
    rw [heq, hkey] at hfind
    cases hfind
  · obtain rfl := List.mem_singleton.1 hmem
    exact ⟨rtxCodec codec payloadType, hinsert.trans (if_pos rfl), rfl⟩

/-! ## One codec -/

/-- A codec that brings no payload type that clashes gets a new one. -/
theorem Assigned.assign (h : Assigned room roomPayloadTypes dynamic)
    (hbrings : Brings roomPayloadTypes dynamic mediaCodec)
    (hassign : assignPayloadType roomPayloadTypes dynamic mediaCodec = .ok (assigned, dynamic')) :
    assigned.payloadType ∉ roomPayloadTypes ∧
      Assigned (room.stored assigned) (assigned.payloadType :: roomPayloadTypes) dynamic' ∧
      (assigned.kind = .video →
        (nextPayloadType roomPayloadTypes dynamic').1 ≠ some assigned.payloadType) := by
  rcases assignPayloadType_ok hassign with
    ⟨hhas, hnot, rfl, rfl⟩ | ⟨-, hnext⟩ | ⟨hhas, hmem, hnone, rfl⟩
  · have hown := hbrings hhas
    rw [if_pos hnot] at hown
    refine ⟨hnot, h.stored hnot (fun hrtx => ?_) List.suffix_rfl fun pt hpt hn => absurd hpt hn, hown.2⟩
    exact (h.rtx _ hrtx).2 (hown.1 (h.rtx _ hrtx).1)
  · have htakes := nextPayloadType_takes h.left hnext
    refine ⟨htakes.notUsed, h.stored htakes.notUsed (fun hrtx => ?_) htakes.left htakes.passed,
      fun _ hsame => ?_⟩
    · exact (h.rtx _ hrtx).2 htakes.mem
    · have hagain : nextPayloadType roomPayloadTypes dynamic' =
          (some assigned.payloadType, (nextPayloadType roomPayloadTypes dynamic').2) :=
        Prod.ext hsame rfl
      exact htakes.notLeft (nextPayloadType_takes (htakes.left.trans h.left) hagain).mem
  · have hused := hbrings hhas
    rw [if_neg (not_not_intro hmem)] at hused
    exact absurd hnone hused

/-- The payload type for an RTX codec is also one that the codec itself does not have. -/
theorem Takes.cons (h : Takes roomPayloadTypes dynamic dynamic' payloadType) {pt : UInt8}
    (hne : payloadType ≠ pt) : Takes (pt :: roomPayloadTypes) dynamic dynamic' payloadType where
  notUsed := fun hmem => (List.mem_cons.1 hmem).elim hne h.notUsed
  mem := h.mem
  left := h.left
  notLeft := h.notLeft
  passed := fun pt hpt hnot => (h.passed pt hpt hnot).imp_right (List.mem_cons_of_mem _)

/-- A codec that does bring one clashes: with a codec, with the RTX codec of another or with its own. -/
theorem Assigned.clashes (h : Assigned room roomPayloadTypes dynamic)
    (hbrings : ¬ Brings roomPayloadTypes dynamic mediaCodec)
    (hassign : assignPayloadType roomPayloadTypes dynamic mediaCodec = .ok (assigned, dynamic')) :
    (∀ room', room.Extends assigned room' → room'.Clashes) ∨ assigned.kind = .video ∧
      ∀ payloadType rest, nextPayloadType roomPayloadTypes dynamic' = (some payloadType, rest) →
        (room.storedRtx assigned payloadType).Clashes := by
  obtain ⟨hhas, hown⟩ := Classical.not_imp.1 hbrings
  rcases assignPayloadType_ok hassign with ⟨-, hnot, rfl, rfl⟩ | ⟨hnew, hnext⟩ | ⟨-, hmem, -, rfl⟩
  · rw [if_pos hnot, Classical.not_and_iff_not_or_not] at hown
    rcases hown with hpassed | hnext
    · obtain ⟨hdynamic, hgone⟩ := Classical.not_imp.1 hpassed
      have hrtx := (h.passed _ hdynamic hgone).resolve_left hnot
      obtain ⟨key, rtx, hfind, hsame⟩ := mem_rtxPayloadTypes.1 hrtx
      have hkey := h.keys key rtx hfind
      have hne : key ≠ assigned.payloadType := fun heq => hnot (heq ▸ hkey)
      refine .inl fun room' hext => .inr ⟨key, hext.mem_old ((h.used key).1 hkey), rtx, ?_, ?_⟩
      · rw [hext.rtx key hne, hfind]
      · rw [hsame]
        exact hext.mem
    · obtain ⟨hvideo, hsame⟩ := Classical.not_imp.1 hnext
      refine .inr ⟨hvideo, fun payloadType rest hnext => ?_⟩
      rw [hnext, Classical.not_not] at hsame
      have hmem := (extends_storedRtx room assigned payloadType).mem
      refine .inr ⟨_, hmem, rtxCodec assigned payloadType, ?_, ?_⟩
      · exact (Table.find?_insert _ _ _ _).trans (if_pos rfl)
      · rw [← Option.some.inj hsame] at hmem
        exact hmem
  · by_cases hused : mediaCodec.payloadType ∈ roomPayloadTypes
    · rw [if_neg (not_not_intro hused), hnext] at hown
      exact absurd (Option.some_ne_none _) hown
    · exact absurd ⟨hhas, hused⟩ hnew
  · exact .inl fun room' hext => hext.clashes ((h.used _).1 hmem)

/-! ## All codecs -/

/-- The first codec brings its payload type, and then the others do. -/
theorem BringAll.cons
    (hassign : assignPayloadType roomPayloadTypes dynamic mediaCodec = .ok (assigned, dynamic')) :
    BringAll roomPayloadTypes dynamic (mediaCodec :: mediaCodecs) ↔
      Brings roomPayloadTypes dynamic mediaCodec ∧
        BringAll (assigned.payloadType :: roomPayloadTypes)
          (if assigned.kind = .video then (nextPayloadType roomPayloadTypes dynamic').2 else dynamic')
          mediaCodecs := by
  rw [BringAll, hassign]

/-- **The loop.** The payload types are unique just if no codec brings one that clashes. -/
theorem Assigned.setCodecs_unique (h : Assigned room roomPayloadTypes dynamic) (hrtx : room.VideoHasRtx)
    (hset : room.setCodecs roomPayloadTypes dynamic mediaCodecs = .ok room') :
    room'.UniquePayloadTypes ↔ BringAll roomPayloadTypes dynamic mediaCodecs := by
  induction mediaCodecs generalizing room roomPayloadTypes dynamic with
  | nil =>
      cases hset
      exact ⟨fun _ => trivial, fun _ => ⟨h.distinct, hrtx⟩⟩
  | cons mediaCodec mediaCodecs ih =>
      obtain ⟨assigned, dynamic', hassign, hround⟩ := setCodecs_cons hset
      rw [BringAll.cons hassign]
      by_cases hbrings : Brings roomPayloadTypes dynamic mediaCodec
      case neg =>
        have hclashes : room'.Clashes := by
          rcases h.clashes hbrings hassign with hclash | ⟨hvideo, hclash⟩
          · rcases hround with ⟨-, hset⟩ | ⟨-, payloadType, rest, -, hset⟩
            · exact (hclash _ (extends_stored room assigned)).setCodecs hset
            · exact (hclash _ (extends_storedRtx room assigned payloadType)).setCodecs hset
          · rcases hround with ⟨haudio, -⟩ | ⟨-, payloadType, rest, hnext, hset⟩
            · exact absurd hvideo haudio
            · exact (hclash payloadType rest hnext).setCodecs hset
        exact ⟨fun hunique => absurd hunique hclashes.not_unique, fun hall => absurd hall.1 hbrings⟩
      case pos =>
        rw [and_iff_right hbrings]
        obtain ⟨hnot, hassigned, hown⟩ := h.assign hbrings hassign
        rcases hround with ⟨haudio, hset⟩ | ⟨hvideo, payloadType, rest, hnext, hset⟩
        · rw [if_neg haudio]
          exact ih hassigned (hrtx.stored haudio) hset
        · rw [if_pos hvideo, hnext]
          have hkey : room.mapPayloadRtxCodecParameters.find? assigned.payloadType = none :=
            Option.eq_none_iff_forall_ne_some.2 fun rtx hfind => hnot (h.keys _ rtx hfind)
          have htakes := (nextPayloadType_takes hassigned.left hnext).cons fun heq =>
            hown hvideo (by rw [hnext, heq])
          exact ih (hassigned.storedRtx hkey htakes) (hrtx.storedRtx hkey payloadType) hset

end

/-! ## The room -/

/-- No payload type is assigned at first. -/
theorem assigned_empty (roomId : UInt32) : Assigned { roomId } [] dynamicPayloadTypes where
  distinct := List.nodup_nil
  used := fun _ => Iff.rfl
  keys := by
    intro key rtx hfind
    cases hfind
  left := List.suffix_rfl
  passed := fun pt hpt hnot => absurd hpt hnot
  rtx := fun pt hpt => absurd hpt List.not_mem_nil

/-- **The payload types of a room are unique just if no codec brings one that clashes.** -/
theorem setCapabilities_unique_iff (roomId : UInt32) (mediaCodecs : List RtpCodecParameters) (room : Room)
    (h : ({ roomId } : Room).setCapabilities mediaCodecs = .ok room) :
    room.UniquePayloadTypes ↔ BringAll [] dynamicPayloadTypes mediaCodecs := by
  obtain ⟨set, hset, hroom⟩ := Checked.bind_eq_ok.1 h
  cases hroom
  have hunique := (assigned_empty roomId).setCodecs_unique (fun codec hmem => absurd hmem List.not_mem_nil) hset
  exact Iff.trans ⟨fun h => ⟨h.distinct, h.rtx⟩, fun h => ⟨h.distinct, h.rtx⟩⟩ hunique

/-- OPUS and VP8 without payload types, and VP9 with a dynamic one that is still free. -/
def threeCodecs : List RtpCodecParameters :=
  [{ kind := .audio, mime := { type := .audio, subtype := .opus }, clockRate := 48000 },
    { kind := .video, mime := { type := .video, subtype := .vp8 }, clockRate := 90000 },
    { kind := .video, mime := { type := .video, subtype := .vp9 }, clockRate := 90000, payloadType := 110,
      hasPayloadType := true }]

/-- Three codecs, one of them with a payload type of its own. -/
theorem setCapabilities_unique_three : ∃ room,
    ({ roomId := 1 } : Room).setCapabilities threeCodecs = .ok room ∧
      room.codecPayloadTypes = [100, 101, 110] ∧ room.UniquePayloadTypes := by
  refine ⟨_, rfl, rfl, (setCapabilities_unique_iff 1 threeCodecs _ rfl).2 ?_⟩
  have hfree : Brings [101, 100] (dynamicPayloadTypes.drop 3) threeCodecs[2] := fun _ =>
    show _ ∧ _ from ⟨fun _ => by decide, fun _ => by decide⟩
  exact And.intro nofun (And.intro nofun (And.intro hfree trivial))

/-- VP8 with the first dynamic payload type, which its RTX codec gets too. -/
def vp8With100 : RtpCodecParameters where
  kind := .video
  mime := { type := .video, subtype := .vp8 }
  clockRate := 90000
  payloadType := 100
  hasPayloadType := true

/-- The codec brings the first dynamic payload type, and its RTX codec gets the same. -/
theorem vp8_with_payload_type_100 : ∃ room,
    ({ roomId := 1 } : Room).setCapabilities [vp8With100] = .ok room ∧
      room.codecPayloadTypes = [100] ∧ room.rtxPayloadTypes = [100] ∧ ¬ room.UniquePayloadTypes := by
  refine ⟨_, rfl, rfl, rfl, fun hunique => ?_⟩
  exact absurd hunique.distinct (show ¬ ([100, 100] : List UInt8).Nodup by decide)

end Room

end KoreWebsocket.Rtc
