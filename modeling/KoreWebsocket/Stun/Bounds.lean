import KoreWebsocket.Stun.Authentication

/-!
# Bounds of the STUN parser

`parse` compares the length that an attribute announces with the rest of the message. A value of a
fixed size is read at that size, and `checkAuthentication` compares 20 bytes of MESSAGE-INTEGRITY,
whatever the announced length is. `announced` has the attributes of a message as their headers have
them, and `parse` is a function of that list (`attributes_eq`). So the bytes say whether a message is
read inside its bounds (`inBounds_iff`).
-/

namespace KoreWebsocket.Stun

open Bytes Byte

/-! ## The attributes as their headers have them -/

/-- An attribute of a message: its place, its type and the length that it announces. -/
structure Announced where
  pos : Nat
  type : UInt16
  length : Nat
  deriving DecidableEq

/-- The header of an attribute at a position. -/
def Announced.ofBytes (d : List UInt8) (pos : Nat) : Announced :=
  { pos
    type := UInt16.ofNat (be ((d.drop pos).take 2))
    length := (UInt16.ofNat (be ((d.drop (pos + 2)).take 2))).toNat }

namespace Announced

variable (a : Announced) (d : List UInt8)

def kind : Option Attribute := Attribute.ofCode a.type

/-- The position behind the attribute and its padding. -/
def next : Nat := pad4 (a.pos + 4 + a.length)

/-- The number of bytes that are read as its value. -/
def size : Nat :=
  match a.kind with
  | some .priority | some .fingerprint | some .errorCode => 4
  | some .iceControlling | some .iceControlled => 8
  | _ => a.length

def value : List UInt8 := (d.drop (a.pos + 4)).take a.size

/-- The message has the bytes that are read as its value. -/
def HasRoom : Prop := a.pos + 4 + a.size ≤ d.length

instance : Decidable (a.HasRoom d) := inferInstanceAs (Decidable (_ ≤ _))

end Announced

/-- The padding takes nothing away. -/
theorem le_pad4 (n : Nat) : n ≤ pad4 n := by
  rw [pad4]
  omega

/-- The attributes from a position on, one behind the other, as far as they are inside the message. -/
def announced (d : List UInt8) (pos : Nat) : List Announced :=
  if pos + 4 + (Announced.ofBytes d pos).length ≤ d.length then
    Announced.ofBytes d pos :: announced d (Announced.ofBytes d pos).next
  else []
termination_by d.length - pos
decreasing_by
  have := le_pad4 (pos + 4 + (Announced.ofBytes d pos).length)
  change d.length - pad4 (pos + 4 + (Announced.ofBytes d pos).length) < d.length - pos
  omega

/-- The position behind attributes that begin at a position. -/
def behind (pos : Nat) : List Announced → Nat
  | [] => pos
  | a :: as => behind a.next as

/-- The attributes that the loop gets to, with its flags for MESSAGE-INTEGRITY and FINGERPRINT: it
discards a message with an attribute behind FINGERPRINT, or with another than FINGERPRINT behind
MESSAGE-INTEGRITY. -/
def reached (mi fp : Bool) : List Announced → List Announced
  | [] => []
  | a :: as =>
      if fp ∨ mi ∧ a.type ≠ Attribute.fingerprint.code then []
      else
        a :: reached (mi || a.kind = some .messageIntegrity) (fp || a.kind = some .fingerprint) as

/-! ## The loop -/

/-- What the loop has from an attribute whose value is inside the message. -/
def Scan.receive (d : List UInt8) (s : Scan) (a : Announced) : Scan :=
  match a.kind with
  | some .messageIntegrity =>
      { s with hasMessageIntegrity := true, msg := s.msg.setMessageIntegrity (a.pos + 4) }
  | some .fingerprint =>
      { s with
        hasFingerprint := true, fingerprintAttrPos := a.pos
        fingerprint := UInt32.ofNat (be (a.value d)), msg := s.msg.setFingerprint }
  | _ => { s with msg := s.msg.receive (a.type, a.value d) }

section
variable {d : List UInt8} {a : Announced} {s : Scan}

/-- A byte of the value is one of the packet. -/
theorem getD_value {i : Nat} (h : i < a.size) : (a.value d).getD i 0 = d.getD (a.pos + 4 + i) 0 := by
  simp [Announced.value, h]

/-- **Step.** An attribute with room for its value is received. -/
theorem attribute_ok (hroom : a.HasRoom d) :
    s.attribute d a.pos a.length a.type = .ok (s.receive d a) := by
  have hkind : Attribute.ofCode a.type = a.kind := rfl
  cases hk : a.kind with
  | none => simp only [Scan.attribute, Scan.receive, Message.receive, hkind, hk]; rfl
  | some kind =>
      rw [Announced.HasRoom] at hroom
      have hvalue : a.value d = (d.drop (a.pos + 4)).take a.size := rfl
      simp only [Announced.size, hk] at hroom hvalue
      cases kind with
      | username =>
          simp only [Scan.attribute, Scan.receive, Message.receive, hkind, hk, read_ok hroom, hvalue]
          rfl
      | priority | fingerprint =>
          simp only [Scan.attribute, Scan.receive, Message.receive, hkind, hk, get4Bytes_ok hroom, hvalue]
          rfl
      | iceControlling | iceControlled =>
          simp only [Scan.attribute, Scan.receive, Message.receive, hkind, hk, get8Bytes, read_ok hroom,
            hvalue]
          rfl
      | errorCode =>
          have hsize : a.size = 4 := by rw [Announced.size, hk]
          change a.pos + 4 + 4 ≤ d.length at hroom
          have hclass : get1Byte d (a.pos + 4 + 2) = .ok ((a.value d).getD 2 0) := by
            rw [getD_value (by omega), get1Byte_ok (by omega)]
          have hnumber : get1Byte d (a.pos + 4 + 3) = .ok ((a.value d).getD 3 0) := by
            rw [getD_value (by omega), get1Byte_ok (by omega)]
          simp only [Scan.attribute, Scan.receive, Message.receive, hkind, hk, hclass, hnumber]
          rfl
      | _ => simp only [Scan.attribute, Scan.receive, Message.receive, hkind, hk]; rfl

/-- An attribute without the room for it is read behind the end. -/
theorem attribute_error (hfits : a.pos + 4 + a.length ≤ d.length) (hroom : ¬ a.HasRoom d) :
    s.attribute d a.pos a.length a.type = .error .overread := by
  have hkind : Attribute.ofCode a.type = a.kind := rfl
  cases hk : a.kind with
  | none => exact absurd hfits (by simpa only [Announced.HasRoom, Announced.size, hk] using hroom)
  | some kind =>
      rw [Announced.HasRoom] at hroom
      simp only [Announced.size, hk] at hroom
      cases kind with
      | priority | fingerprint =>
          simp only [Scan.attribute, hkind, hk, get4Bytes_error hroom]
          rfl
      | iceControlling | iceControlled =>
          simp only [Scan.attribute, hkind, hk, get8Bytes, read_error hroom]
          rfl
      | errorCode =>
          change ¬ a.pos + 4 + 4 ≤ d.length at hroom
          have hnumber : get1Byte d (a.pos + 4 + 3) = .error .overread := get1Byte_error (by omega)
          simp only [Scan.attribute, hkind, hk, hnumber]
          by_cases hclass : a.pos + 4 + 2 + 1 ≤ d.length
          · rw [get1Byte_ok hclass]
            rfl
          · rw [get1Byte_error hclass]
            rfl
      | _ => exact absurd hfits hroom

/-- The scan notes MESSAGE-INTEGRITY. -/
theorem receive_hasMessageIntegrity : (s.receive d a).hasMessageIntegrity =
    (s.hasMessageIntegrity || a.kind = some .messageIntegrity) := by
  rw [Scan.receive]
  split <;> simp_all

/-- The scan notes FINGERPRINT. -/
theorem receive_hasFingerprint :
    (s.receive d a).hasFingerprint = (s.hasFingerprint || a.kind = some .fingerprint) := by
  rw [Scan.receive]
  split <;> simp_all

/-- The attributes from a position on that the loop gets to. -/
def Scan.reached (s : Scan) (d : List UInt8) (pos : Nat) : List Announced :=
  Stun.reached s.hasMessageIntegrity s.hasFingerprint (announced d pos)

/-- The loop gets to every attribute from a position on, and the last one ends with the message. -/
def Scan.Ends (s : Scan) (d : List UInt8) (pos : Nat) : Prop :=
  s.reached d pos = announced d pos ∧ behind pos (announced d pos) = d.length

instance (pos : Nat) : Decidable (s.Ends d pos) := inferInstanceAs (Decidable (_ ∧ _))

/-- What the loop ends with. -/
def Scan.loop (s : Scan) (d : List UInt8) (pos : Nat) : Except Fault (Option (Nat × Scan)) :=
  if ∀ a ∈ s.reached d pos, a.HasRoom d then
    .ok (if s.Ends d pos then some (d.length, (announced d pos).foldl (Scan.receive d) s) else none)
  else .error .overread

section
variable {pos : Nat}

/-- No attribute is announced where its length leads behind the end. -/
theorem announced_nil (h : d.length < pos + 4 + (Announced.ofBytes d pos).length) :
    announced d pos = [] := by
  rw [announced, if_neg (by omega)]

/-- Otherwise one is, and those behind it. -/
theorem announced_cons (h : ¬ d.length < pos + 4 + (Announced.ofBytes d pos).length) :
    announced d pos =
      Announced.ofBytes d pos :: announced d (Announced.ofBytes d pos).next := by
  rw [announced, if_pos (by omega)]

/-- The loop discards a packet in which it reaches nothing and which does not end here. -/
theorem loop_discarded (hreached : s.reached d pos = []) (hends : ¬ s.Ends d pos) :
    s.loop d pos = .ok none := by
  rw [Scan.loop, if_pos (by simp [hreached]), if_neg hends]

/-- The packet does not end behind its last attribute. -/
theorem loop_short (h : announced d pos = []) (hne : pos ≠ d.length) : s.loop d pos = .ok none := by
  refine loop_discarded (by rw [Scan.reached, h, reached]) fun hends => hne ?_
  rw [← hends.2, h, behind]

/-- The packet ends behind its last attribute. -/
theorem loop_end (h : announced d pos = []) (hend : pos = d.length) :
    s.loop d pos = .ok (some (pos, s)) := by
  have hnil : s.reached d pos = [] := by rw [Scan.reached, h, reached]
  have hends : s.Ends d pos := by
    rw [Scan.Ends, hnil, h]
    exact ⟨rfl, hend⟩
  rw [Scan.loop, if_pos (by simp [hnil]), if_pos hends, h, hend]
  rfl

section
variable {as : List Announced} (h : announced d pos = a :: as)
include h

/-- An attribute stands behind one that has to be the last. -/
theorem loop_unordered (hno : s.hasFingerprint = true ∨
    s.hasMessageIntegrity = true ∧ a.type ≠ Attribute.fingerprint.code) :
    s.loop d pos = .ok none := by
  have hnil : s.reached d pos = [] := by rw [Scan.reached, h, reached, if_pos hno]
  refine loop_discarded hnil fun hends => ?_
  rw [Scan.Ends, hnil, h] at hends
  cases hends.1

/-- A round of the loop: the attribute is received if it has room. -/
theorem loop_cons (has : as = announced d a.next) (hyes : ¬ (s.hasFingerprint = true ∨
    s.hasMessageIntegrity = true ∧ a.type ≠ Attribute.fingerprint.code)) :
    s.loop d pos = if a.HasRoom d then (s.receive d a).loop d a.next else .error .overread := by
  have hreached : s.reached d pos = a :: (s.receive d a).reached d a.next := by
    rw [Scan.reached, h, reached, if_neg hyes, Scan.reached, receive_hasMessageIntegrity,
      receive_hasFingerprint, has]
  have hends : s.Ends d pos ↔ (s.receive d a).Ends d a.next := by
    rw [Scan.Ends, Scan.Ends, hreached, h, List.cons_inj_right, has, behind]
  simp only [Scan.loop, hreached, List.forall_mem_cons, hends, h, List.foldl_cons, has]
  by_cases hroom : a.HasRoom d
  · rw [if_pos hroom]
    simp only [hroom, true_and]
  · rw [if_neg hroom, if_neg fun hall => hroom hall.1]

end

end

/-- **Run.** The loop reads behind the end if it gets to an attribute without room for its value. Else
it receives the attributes, or it discards the message. -/
theorem attributes_eq (hlen : d.length ≤ 65532) (hmod : d.length % 4 = 0) {fuel pos : Nat}
    (hfuel : d.length < pos + fuel) (hpos : pos % 4 = 0) (hle : pos ≤ d.length) :
    attributes d fuel pos s = s.loop d pos := by
  induction fuel generalizing pos s with
  | zero => omega
  | succ fuel ih =>
      rw [attributes_succ]
      by_cases hhead : pos + 4 ≤ d.length
      · rw [if_pos hhead, get2Bytes_ok (by omega), get2Bytes_ok (by omega), Checked.ok_bind,
          Checked.ok_bind]
        change (if d.length < pos + 4 + (Announced.ofBytes d pos).length then _ else _) = _
        by_cases hshort : d.length < pos + 4 + (Announced.ofBytes d pos).length
        · rw [if_pos hshort, loop_short (announced_nil hshort) (by omega)]
          rfl
        rw [if_neg hshort]
        have hcons := announced_cons hshort
        by_cases hfp : s.hasFingerprint = true
        · rw [if_pos hfp, loop_unordered hcons (.inl hfp)]
          rfl
        rw [if_neg hfp]
        by_cases hmi : s.hasMessageIntegrity = true ∧
            (Announced.ofBytes d pos).type ≠ Attribute.fingerprint.code
        · rw [loop_unordered hcons (.inr hmi)]
          exact if_pos hmi
        rw [loop_cons hcons rfl fun h => h.elim hfp hmi]
        refine (if_neg hmi).trans ?_
        by_cases hroom : (Announced.ofBytes d pos).HasRoom d
        · rw [if_pos hroom]
          refine (congrArg (· >>= _) (attribute_ok hroom)).trans ?_
          change attributes d fuel (padTo4Bytes (pos + 4 + (Announced.ofBytes d pos).length)) _ = _
          rw [padTo4Bytes_eq (by omega)]
          have hle := le_pad4 (pos + 4 + (Announced.ofBytes d pos).length)
          have hnext : (Announced.ofBytes d pos).next ≤ d.length := by
            change pad4 (pos + 4 + (Announced.ofBytes d pos).length) ≤ d.length
            rw [pad4]
            omega
          exact ih (by omega) (pad4_mod _) hnext
        · rw [if_neg hroom]
          have hfits : pos + 4 + (Announced.ofBytes d pos).length ≤ d.length := by omega
          exact congrArg (· >>= _) (attribute_error hfits hroom)
      · have hend : pos = d.length := by omega
        rw [if_neg hhead, loop_end (announced_nil (by omega)) hend]
        rfl

end

/-! ## Parse -/

/-- The header is one of a STUN message of this length. -/
structure HeaderFits (d : List UInt8) : Prop where
  stun : isStun d = true
  length : (UInt16.ofNat (be ((d.drop 2).take 2))).toNat = d.length - 20
  multiple : (d.length - 20) % 4 = 0

/-- Every attribute that the loop gets to has room for its value. -/
def RoomForValues (d : List UInt8) : Prop :=
  HeaderFits d → ∀ a ∈ reached false false (announced d 20), a.HasRoom d

/-- FINGERPRINT has the CRC32 of the bytes before it. -/
def Announced.FingerprintMatches (c : Crypto) (d : List UInt8) (a : Announced) : Prop :=
  a.kind = some .fingerprint →
    UInt32.ofNat (be (a.value d)) = c.getCrc32 (d.take a.pos) ^^^ 0x5354554e

instance (c : Crypto) (d : List UInt8) (a : Announced) : Decidable (a.FingerprintMatches c d) :=
  inferInstanceAs (Decidable (_ → _))

/-- The message is not discarded: its attributes are in order and fill it, and FINGERPRINT is right. -/
structure Accepted (c : Crypto) (d : List UInt8) : Prop where
  header : HeaderFits d
  ordered : reached false false (announced d 20) = announced d 20
  filled : behind 20 (announced d 20) = d.length
  fingerprint : ∀ a ∈ announced d 20, a.FingerprintMatches c d

/-- The variables of the loop before its first round. -/
def Scan.start (d : List UInt8) : Scan :=
  { msg :=
      { klass := classOf (d.getD 0 0) (d.getD 1 0)
        method := methodOf (UInt16.ofNat (be ((d.drop 0).take 2)))
        transactionId := transactionIdAt d 8, data := d, size := d.length } }

/-- The message that the attributes give. -/
def received (d : List UInt8) : Message :=
  ((announced d 20).foldl (Scan.receive d) (Scan.start d)).msg

section
variable {c : Crypto} {d : List UInt8} {s : Scan}

/-- A packet that passes the checks of the header has a header. -/
theorem HeaderFits.le_length (h : HeaderFits d) : 20 ≤ d.length := le_length_of_isStun h.stun

/-- The values of the announced attributes are within the packet. -/
theorem mem_announced {pos : Nat} {a : Announced} (h : a ∈ announced d pos) :
    a.pos + 4 + a.length ≤ d.length := by
  induction pos using announced.induct (d := d) with
  | case1 pos hfits ih =>
      rw [announced, if_pos hfits] at h
      rcases List.mem_cons.1 h with rfl | h
      · exact hfits
      · exact ih h
  | case2 pos hshort =>
      rw [announced, if_neg hshort] at h
      cases h

/-- Nothing is reached behind FINGERPRINT. -/
theorem reached_behind_fingerprint (mi : Bool) (as : List Announced) : reached mi true as = [] := by
  cases as with
  | nil => rfl
  | cons a as => exact if_pos (.inl rfl)

/-- Attributes in order behind the first one. -/
theorem ordered_tail {mi : Bool} {a : Announced} {as : List Announced}
    (h : reached mi false (a :: as) = a :: as) :
    reached (mi || a.kind = some .messageIntegrity) (a.kind = some .fingerprint) as = as := by
  rw [reached] at h
  split at h
  · cases h
  · rw [Bool.false_or] at h
    exact List.tail_eq_of_cons_eq h

/-- FINGERPRINT is compared with the CRC32 of the bytes before it. -/
theorem checkFingerprint_receive {a : Announced} (hk : a.kind = some .fingerprint)
    (hin : a.pos ≤ d.length) :
    (s.receive d a).checkFingerprint c d = .ok (decide (a.FingerprintMatches c d)) := by
  have hread : read d 0 a.pos = .ok (d.take a.pos) := by
    rw [read_ok (by omega), List.drop_zero]
  have hmatches : a.FingerprintMatches c d ↔
      UInt32.ofNat (be (a.value d)) = c.getCrc32 (d.take a.pos) ^^^ 0x5354554e :=
    forall_prop_of_true hk
  simp only [Scan.receive, hk, Scan.checkFingerprint, if_true, hread, hmatches]
  rfl

/-- **Run.** The check of FINGERPRINT behind attributes in order. -/
theorem checkFingerprint_foldl {as : List Announced} (hfp : s.hasFingerprint = false)
    (hordered : reached s.hasMessageIntegrity false as = as) (hin : ∀ a ∈ as, a.pos ≤ d.length) :
    (as.foldl (Scan.receive d) s).checkFingerprint c d =
      .ok (decide (∀ a ∈ as, a.FingerprintMatches c d)) := by
  induction as generalizing s with
  | nil =>
      rw [List.foldl_nil, Scan.checkFingerprint, hfp]
      simp only [List.not_mem_nil, false_implies, implies_true, decide_true]
      rfl
  | cons a as ih =>
      have htail := ordered_tail hordered
      rw [List.foldl_cons]
      by_cases hk : a.kind = some .fingerprint
      · have hnil : as = [] := by
          rw [decide_eq_true hk, reached_behind_fingerprint] at htail
          exact htail.symm
        rw [hnil, List.foldl_nil, checkFingerprint_receive hk (hin a List.mem_cons_self)]
        simp only [List.forall_mem_singleton]
      · have hvacuous : a.FingerprintMatches c d := fun h => absurd h hk
        rw [decide_eq_false hk] at htail
        rw [ih]
        · simp only [List.forall_mem_cons, hvacuous, true_and]
        · rw [receive_hasFingerprint, hfp, decide_eq_false hk]
          rfl
        · rw [receive_hasMessageIntegrity]
          exact htail
        · exact fun b hb => hin b (List.mem_cons_of_mem a hb)

/-- A packet with a header: the loop over its attributes, the end and the fingerprint. -/
theorem parse_header (h : HeaderFits d) : parse c d = (do
    match ← attributes d rounds 20 (.start d) with
    | none => return none
    | some (pos, s) =>
        if pos ≠ d.length then return none
        if !(← s.checkFingerprint c d) then return none
        return some s.msg) := by
  have hle := h.le_length
  have hfits : ¬ ((UInt16.ofNat (be ((d.drop 2).take 2))).toNat ≠ d.length - 20 ∨
      (UInt16.ofNat (be ((d.drop 2).take 2))).toNat % 4 ≠ 0) := by
    have := h.length
    have := h.multiple
    omega
  rw [parse, h.stun, get2Bytes_ok (by omega), get2Bytes_ok (by omega), Checked.ok_bind,
    Checked.ok_bind, if_neg hfits]
  rfl

/-- A packet without one is discarded before anything else is read. -/
theorem parse_no_header (h : ¬ HeaderFits d) : parse c d = .ok none := by
  by_cases hstun : isStun d = true
  · have hle := le_length_of_isStun hstun
    have hno : (UInt16.ofNat (be ((d.drop 2).take 2))).toNat ≠ d.length - 20 ∨
        (UInt16.ofNat (be ((d.drop 2).take 2))).toNat % 4 ≠ 0 := by
      by_contra hfits
      exact h ⟨hstun, by omega, by omega⟩
    rw [parse, hstun, get2Bytes_ok (by omega), get2Bytes_ok (by omega), Checked.ok_bind,
      Checked.ok_bind, if_pos hno]
    rfl
  · rw [parse, Bool.eq_false_iff.2 hstun]
    rfl

/-- **Parse.** What `parse` does is said by the attributes as their headers have them. -/
theorem parse_eq (hlen : d.length ≤ 65535) (h : HeaderFits d) : parse c d =
    if ∀ a ∈ reached false false (announced d 20), a.HasRoom d then
      .ok (if (Scan.start d).Ends d 20 ∧ ∀ a ∈ announced d 20, a.FingerprintMatches c d then
        some (received d) else none)
    else .error .overread := by
  have hle := h.le_length
  have hmod : d.length % 4 = 0 := by
    have := h.multiple
    omega
  have hloop : attributes d rounds 20 (.start d) = (Scan.start d).loop d 20 := by
    refine attributes_eq (by omega) hmod ?_ rfl hle
    rw [rounds]
    omega
  rw [parse_header h, hloop, Scan.loop]
  by_cases hroom : ∀ a ∈ (Scan.start d).reached d 20, a.HasRoom d
  · rw [if_pos hroom, Checked.ok_bind]
    refine Eq.trans ?_ (if_pos hroom).symm
    by_cases hends : (Scan.start d).Ends d 20
    · have hcheck : ((announced d 20).foldl (Scan.receive d) (.start d)).checkFingerprint c d =
          .ok (decide (∀ a ∈ announced d 20, a.FingerprintMatches c d)) :=
        checkFingerprint_foldl rfl hends.1 fun a ha => by
          have := mem_announced ha
          omega
      simp only [hends, if_true, true_and, ne_eq, not_true_eq_false, if_false, hcheck, Checked.ok_bind]
      by_cases hmatches : ∀ a ∈ announced d 20, a.FingerprintMatches c d
      · rw [if_pos hmatches, decide_eq_true hmatches]
        rfl
      · rw [if_neg hmatches, decide_eq_false hmatches]
        rfl
    · rw [if_neg hends, if_neg fun h => hends h.1]
      rfl
  · rw [if_neg hroom]
    exact (if_neg hroom).symm

end

/-! ## The message that is received -/

/-- The value of the first USERNAME that has one. -/
def usernameOf (d : List UInt8) (as : List Announced) : List UInt8 :=
  match as with
  | [] => []
  | a :: as =>
      if a.kind = some .username ∧ a.value d ≠ [] then a.value d else usernameOf d as

/-- The first MESSAGE-INTEGRITY. -/
def integrityOf (as : List Announced) : Option Announced :=
  as.find? fun a => a.kind = some .messageIntegrity

section
variable {d : List UInt8} {a : Announced} {s : Scan}

/-- **Step.** What no attribute changes, and what only MESSAGE-INTEGRITY changes. -/
theorem receive_same (m : Message) (type : UInt16) (value : List UInt8) :
    (m.receive (type, value)).klass = m.klass ∧ (m.receive (type, value)).data = m.data ∧
      (m.receive (type, value)).messageIntegrity = m.messageIntegrity := by
  simp only [Message.receive]
  split
  · rw [Message.setUsername]
    split <;> exact ⟨rfl, rfl, rfl⟩
  · rw [Message.setPriority]
    split <;> exact ⟨rfl, rfl, rfl⟩
  · rw [Message.setIceControlling]
    split <;> exact ⟨rfl, rfl, rfl⟩
  · rw [Message.setIceControlled]
    split <;> exact ⟨rfl, rfl, rfl⟩
  · exact ⟨rfl, rfl, rfl⟩
  · exact ⟨rfl, rfl, rfl⟩
  · exact ⟨rfl, rfl, rfl⟩

/-- **Step.** The username is that of the first attribute that has one. -/
theorem username_receive (m : Message) (type : UInt16) (value : List UInt8) :
    (m.receive (type, value)).username =
      if Attribute.ofCode type = some .username ∧ m.username = [] then value else m.username := by
  simp only [Message.receive]
  split
  case h_1 hk =>
    rw [Message.setUsername, hk]
    simp only [true_and]
    split <;> rfl
  case h_2 hk =>
    rw [Message.setPriority, hk]
    split <;> rfl
  case h_3 hk =>
    rw [Message.setIceControlling, hk]
    split <;> rfl
  case h_4 hk =>
    rw [Message.setIceControlled, hk]
    split <;> rfl
  case h_5 hk =>
    rw [hk]
    rfl
  case h_6 hk =>
    rw [hk]
    rfl
  case h_7 hk _ _ _ _ _ =>
    rw [if_neg fun h => hk h.1]

/-- What an attribute changes of the message, as far as `CheckAuthentication` reads it. -/
theorem receive_msg :
    (s.receive d a).msg.klass = s.msg.klass ∧ (s.receive d a).msg.data = s.msg.data ∧
      (s.receive d a).msg.username =
        (if a.kind = some .username ∧ s.msg.username = [] then a.value d else s.msg.username) ∧
      (s.receive d a).msg.messageIntegrity =
        if a.kind = some .messageIntegrity ∧ s.msg.messageIntegrity = none then some (a.pos + 4)
        else s.msg.messageIntegrity := by
  rw [Scan.receive]
  split
  case h_1 hk =>
    rw [hk]
    simp only [Message.setMessageIntegrity, true_and]
    split
    · exact ⟨rfl, rfl, rfl, rfl⟩
    · exact ⟨rfl, rfl, rfl, rfl⟩
  case h_2 hk =>
    rw [hk]
    exact ⟨rfl, rfl, rfl, rfl⟩
  case h_3 hk _ =>
    obtain ⟨hklass, hdata, hplace⟩ := receive_same s.msg a.type (a.value d)
    refine ⟨hklass, hdata, username_receive s.msg a.type (a.value d), ?_⟩
    rw [if_neg fun h => hk h.1]
    exact hplace

/-- The class and the bytes of the message are those of the header. -/
theorem foldl_receive_same (as : List Announced) :
    (as.foldl (Scan.receive d) s).msg.klass = s.msg.klass ∧
      (as.foldl (Scan.receive d) s).msg.data = s.msg.data := by
  induction as generalizing s with
  | nil => exact ⟨rfl, rfl⟩
  | cons a as ih =>
      obtain ⟨hklass, hdata, -⟩ := receive_msg (d := d) (a := a) (s := s)
      obtain ⟨ihklass, ihdata⟩ := ih (s := s.receive d a)
      exact ⟨ihklass.trans hklass, ihdata.trans hdata⟩

/-- **Run.** The username is that of the first USERNAME with a value. -/
theorem foldl_receive_username (as : List Announced) :
    (as.foldl (Scan.receive d) s).msg.username =
      if s.msg.username = [] then usernameOf d as else s.msg.username := by
  induction as generalizing s with
  | nil =>
      rw [usernameOf]
      split
      case isTrue h => exact h
      case isFalse => rfl
  | cons a as ih =>
      obtain ⟨-, -, hname, -⟩ := receive_msg (d := d) (a := a) (s := s)
      rw [List.foldl_cons, ih, hname, usernameOf]
      by_cases hempty : s.msg.username = []
      · by_cases hk : a.kind = some .username
        · simp only [hempty, hk, true_and, if_true]
          rw [ite_not]
        · simp only [hempty, hk, false_and, if_true, if_false]
      · simp only [hempty, and_false, if_false]

/-- **Run.** The place is that of the first MESSAGE-INTEGRITY. -/
theorem foldl_receive_messageIntegrity (as : List Announced) :
    (as.foldl (Scan.receive d) s).msg.messageIntegrity =
      s.msg.messageIntegrity.or ((integrityOf as).map fun a => a.pos + 4) := by
  induction as generalizing s with
  | nil => exact Option.or_none.symm
  | cons a as ih =>
      obtain ⟨-, -, -, hplace⟩ := receive_msg (d := d) (a := a) (s := s)
      rw [List.foldl_cons, ih, hplace, integrityOf, integrityOf, List.find?_cons]
      by_cases hk : a.kind = some .messageIntegrity
      · cases hmi : s.msg.messageIntegrity with
        | none => simp only [hk, decide_true, and_self, if_true]; rfl
        | some place => simp only [reduceCtorEq, and_false, if_false, Option.some_or]
      · simp only [hk, decide_false, false_and, if_false]

end

/-! ## CheckAuthentication -/

section
variable {c : Crypto} {m : Message} {data : List UInt8}

/-- The length in the header can be written. -/
theorem setLength_ok (length : UInt16) (h : 4 ≤ data.length) :
    ∃ data', m.setLength data length = .ok data' ∧ data'.length = data.length := by
  rw [Message.setLength]
  split
  · obtain ⟨data', hwrite, -, hlen⟩ := write_behind (beBytes 2 length.toNat) (a := data.take 2) rfl
      (by rw [length_beBytes]; omega)
    exact ⟨data', hwrite, hlen⟩
  · exact ⟨data, rfl, rfl⟩

/-- The HMAC is compared inside the message if 20 bytes are there. -/
theorem verify_inside {place : Nat} (password : List UInt8) (hlen : 4 ≤ m.data.length)
    (hplace : place ≤ m.data.length) :
    InBuffer (m.verify c place password) ↔ place + 20 ≤ m.data.length := by
  obtain ⟨data, hset, hdata⟩ := setLength_ok (m := m) (UInt16.ofNat m.size - 20 - 8) hlen
  obtain ⟨data', hset', -⟩ : ∃ data', m.setLength data (UInt16.ofNat m.size - 20) = .ok data' ∧
      data'.length = data.length := setLength_ok _ (by omega)
  have hfront : read data 0 (place - 4) = .ok ((data.drop 0).take (place - 4)) :=
    read_ok (by omega)
  rw [Message.verify, hset, Checked.ok_bind, hfront, Checked.ok_bind]
  by_cases hroom : place + 20 ≤ m.data.length
  · rw [read_ok (by omega), Checked.ok_bind, hset']
    exact iff_of_true (inBuffer_ok rfl) hroom
  · rw [read_error (by omega)]
    exact iff_of_false (fun h => h.1 rfl) hroom

/-- The message has 20 bytes of MESSAGE-INTEGRITY if they are compared for some local username. -/
def Message.RoomForIntegrity (m : Message) : Prop :=
  ∀ place, m.messageIntegrity = some place → m.klass = .request ∨ m.klass = .indication →
    0x3A ∈ m.username → place + 20 ≤ m.data.length

/-- A user name that begins with the local one has a colon. -/
theorem colon_of_startsWith {localUsername : List UInt8} (h : m.startsWith localUsername = true) :
    0x3A ∈ m.username := by
  simp only [Message.startsWith, Bool.and_eq_true, decide_eq_true_eq, beq_iff_eq] at h
  obtain ⟨⟨hlt, hcolon⟩, -⟩ := h
  rw [← hcolon, List.getD_eq_getElem _ _ hlt]
  exact List.getElem_mem hlt

/-- `CheckAuthentication` reads and writes within the buffer just when the integrity has room. -/
theorem checkAuthentication_inside (hlen : 4 ≤ m.data.length)
    (hplace : ∀ place, m.messageIntegrity = some place → place ≤ m.data.length) :
    (∀ localUsername localPassword,
      InBuffer (m.checkAuthentication c localUsername localPassword)) ↔ m.RoomForIntegrity := by
  constructor
  · intro h place hmi hklass hcolon
    obtain ⟨front, tail, hname⟩ := List.append_of_mem hcolon
    obtain ⟨hne, hstarts⟩ := startsWith_colon hname
    have hverify : m.checkAuthentication c front [] = m.verify c place [] := by
      simp only [Message.checkAuthentication, hmi, hne, hstarts]
      rcases hklass with hk | hk <;> rw [hk] <;> rfl
    have hin := h front []
    rw [hverify] at hin
    exact (verify_inside [] hlen (hplace place hmi)).1 hin
  · intro h localUsername localPassword
    rw [Message.checkAuthentication]
    split
    · exact inBuffer_ok rfl
    · exact inBuffer_ok rfl
    all_goals
      rename_i hk
      split
      · exact inBuffer_ok rfl
      next place hmi =>
      split
      · exact inBuffer_ok rfl
      split
      · exact inBuffer_ok rfl
      next hstarts =>
      rw [Bool.not_eq_true', Bool.not_eq_false] at hstarts
      refine (verify_inside localPassword hlen (hplace place hmi)).2 ?_
      exact h place hmi (by simp [hk]) (colon_of_startsWith hstarts)

end

/-! ## The bounds -/

/-- **The property.** `parse` stays inside the bytes, and so does `checkAuthentication` of a message
that it returns. -/
structure InBounds (c : Crypto) (d : List UInt8) : Prop where
  parse : InBuffer (parse c d)
  checkAuthentication : ∀ m, Stun.parse c d = .ok (some m) → ∀ localUsername localPassword,
    InBuffer (m.checkAuthentication c localUsername localPassword)

/-- The first MESSAGE-INTEGRITY of a request or an indication whose username has a colon has 20 bytes of
the message behind its header. -/
def RoomForIntegrity (d : List UInt8) : Prop :=
  ∀ a, integrityOf (announced d 20) = some a →
    classOf (d.getD 0 0) (d.getD 1 0) = .request ∨ classOf (d.getD 0 0) (d.getD 1 0) = .indication →
    0x3A ∈ usernameOf d (announced d 20) → a.pos + 4 + 20 ≤ d.length

section
variable {c : Crypto} {d : List UInt8}

/-- `CheckAuthentication` of the message that the parser returns is within the buffer just when the
integrity has room. -/
theorem received_checkAuthentication (hle : 20 ≤ d.length) :
    (∀ localUsername localPassword,
      InBuffer ((received d).checkAuthentication c localUsername localPassword)) ↔
      RoomForIntegrity d := by
  obtain ⟨hklass, hdata⟩ := foldl_receive_same (d := d) (s := .start d) (announced d 20)
  have hname := foldl_receive_username (d := d) (s := .start d) (announced d 20)
  have hplace := foldl_receive_messageIntegrity (d := d) (s := .start d) (announced d 20)
  change (received d).klass = classOf (d.getD 0 0) (d.getD 1 0) at hklass
  change (received d).data = d at hdata
  change (received d).username = usernameOf d (announced d 20) at hname
  change (received d).messageIntegrity = (integrityOf (announced d 20)).map fun a => a.pos + 4
    at hplace
  rw [checkAuthentication_inside]
  · rw [Message.RoomForIntegrity, hklass, hdata, hname, hplace, RoomForIntegrity]
    refine ⟨fun h a hfind => h (a.pos + 4) (by rw [hfind]; rfl), fun h place hmi => ?_⟩
    obtain ⟨a, hfind, rfl⟩ := Option.map_eq_some_iff.1 hmi
    exact h a hfind
  · rw [hdata]
    omega
  · intro place hmi
    rw [hplace] at hmi
    obtain ⟨a, hfind, rfl⟩ := Option.map_eq_some_iff.1 hmi
    have := mem_announced (List.mem_of_find?_eq_some hfind)
    rw [hdata]
    omega

/-- **A message is read inside its bounds just if its attributes have the room.** -/
theorem inBounds_iff (c : Crypto) (d : List UInt8) (hlen : d.length ≤ 65535) :
    InBounds c d ↔ RoomForValues d ∧ (Accepted c d → RoomForIntegrity d) := by
  by_cases hheader : HeaderFits d
  · have hparse := parse_eq (c := c) hlen hheader
    by_cases hroom : ∀ a ∈ reached false false (announced d 20), a.HasRoom d
    · rw [if_pos hroom] at hparse
      by_cases haccepted : Accepted c d
      · rw [if_pos ⟨⟨haccepted.ordered, haccepted.filled⟩, haccepted.fingerprint⟩] at hparse
        have hcheck := received_checkAuthentication (c := c) hheader.le_length
        constructor
        · exact fun h => ⟨fun _ => hroom, fun _ => hcheck.1 (h.checkAuthentication _ hparse)⟩
        · rintro ⟨-, h⟩
          refine ⟨inBuffer_ok hparse, fun m hm => ?_⟩
          rw [hparse] at hm
          cases hm
          exact hcheck.2 (h haccepted)
      · rw [if_neg fun h => haccepted ⟨hheader, h.1.1, h.1.2, h.2⟩] at hparse
        refine iff_of_true ⟨inBuffer_ok hparse, fun m hm => ?_⟩
          ⟨fun _ => hroom, fun h => absurd h haccepted⟩
        rw [hparse] at hm
        cases hm
    · rw [if_neg hroom] at hparse
      exact iff_of_false (fun h => h.parse.1 hparse) (fun h => hroom (h.1 hheader))
  · have hnone := parse_no_header (c := c) hheader
    refine iff_of_true ⟨inBuffer_ok hnone, fun m hm => ?_⟩
      ⟨fun h => absurd h hheader, fun h => absurd h.header hheader⟩
    rw [hnone] at hm
    cases hm

end

/-- A BINDING request with these attributes. -/
def bindingRequest (attrs : List UInt8) : List UInt8 :=
  [0, 1] ++ beBytes 2 attrs.length ++ magicCookie ++ List.replicate 12 7 ++ attrs

/-- USERNAME `a:b` and a MESSAGE-INTEGRITY. -/
def usernameAndIntegrity (integrity : List UInt8) : List UInt8 :=
  bindingRequest ([0, 6, 0, 3, 0x61, 0x3A, 0x62, 0, 0, 8] ++ beBytes 2 integrity.length ++ integrity)

/-- A user name of three bytes, and the integrity behind its padding. -/
theorem announced_usernameAndIntegrity :
    announced (usernameAndIntegrity (List.replicate 20 9)) 20 = [⟨20, 6, 3⟩, ⟨28, 8, 20⟩] := by
  rw [announced, if_pos (by decide), announced, if_pos (by decide), announced, if_neg (by decide)]
  rfl

/-- The packet is handled within its buffer. -/
theorem inBounds_usernameAndIntegrity :
    InBounds sampleCrypto (usernameAndIntegrity (List.replicate 20 9)) := by
  refine (inBounds_iff sampleCrypto (usernameAndIntegrity (List.replicate 20 9)) (by decide)).2
    ⟨fun _ => ?_, fun _ a hfind _ _ => ?_⟩
  · rw [announced_usernameAndIntegrity]
    decide
  · rw [announced_usernameAndIntegrity] at hfind
    cases hfind
    decide

/-- A PRIORITY that announces no value, at the end of a message, is read behind the end. A
MESSAGE-INTEGRITY that announces no value is compared behind the end. -/
theorem attributes_without_value :
    parse sampleCrypto (bindingRequest [0, 0x24, 0, 0]) = .error .overread ∧
    (∃ m, parse sampleCrypto (usernameAndIntegrity []) = .ok (some m) ∧
      m.checkAuthentication sampleCrypto [0x61] [] = .error .overread) ∧
    ¬ ∀ (c : Crypto) (d : List UInt8), d.length ≤ 65535 → InBounds c d := by
  refine ⟨rfl, ⟨_, rfl, rfl⟩, fun h => ?_⟩
  have hpriority := h sampleCrypto (bindingRequest [0, 0x24, 0, 0]) (by decide)
  exact hpriority.parse.1 rfl

end KoreWebsocket.Stun
