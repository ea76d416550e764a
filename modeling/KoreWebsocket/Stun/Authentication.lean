import KoreWebsocket.Stun.Codec

/-!
# Authentication of STUN messages

`checkAuthentication` writes another length into the message and restores it. The message stays as it
was (`checkAuthentication_data`) because `parse` has checked the length that is restored. For what
`serialize` writes, the HMAC is computed over the same bytes on both sides.
-/

namespace KoreWebsocket.Stun

open Bytes Byte

/-! ## The length field -/

section
variable {c : Crypto} {d : List UInt8} {p : Message} {s s' : Scan}

/-- **Step.** An attribute changes neither the data nor the size of the message. -/
theorem attribute_data {pos attrLength : Nat} {attrType : UInt16}
    (h : s.attribute d pos attrLength attrType = .ok s') :
    s'.msg.data = s.msg.data ∧ s'.msg.size = s.msg.size := by
  rw [Scan.attribute] at h
  split at h
  · obtain ⟨v, -, h⟩ := Checked.bind_eq_ok.1 h
    cases h
    simp only [Message.setUsername]
    split <;> exact ⟨rfl, rfl⟩
  · obtain ⟨v, -, h⟩ := Checked.bind_eq_ok.1 h
    cases h
    simp only [Message.setPriority]
    split <;> exact ⟨rfl, rfl⟩
  · obtain ⟨v, -, h⟩ := Checked.bind_eq_ok.1 h
    cases h
    simp only [Message.setIceControlling]
    split <;> exact ⟨rfl, rfl⟩
  · obtain ⟨v, -, h⟩ := Checked.bind_eq_ok.1 h
    cases h
    simp only [Message.setIceControlled]
    split <;> exact ⟨rfl, rfl⟩
  · cases h
    exact ⟨rfl, rfl⟩
  · cases h
    simp only [Message.setMessageIntegrity]
    split <;> exact ⟨rfl, rfl⟩
  · obtain ⟨v, -, h⟩ := Checked.bind_eq_ok.1 h
    cases h
    exact ⟨rfl, rfl⟩
  · obtain ⟨v, -, h⟩ := Checked.bind_eq_ok.1 h
    obtain ⟨w, -, h⟩ := Checked.bind_eq_ok.1 h
    cases h
    exact ⟨rfl, rfl⟩
  · cases h
    exact ⟨rfl, rfl⟩

/-- **Run.** Nor does the loop. -/
theorem attributes_data {fuel pos pos' : Nat} (h : attributes d fuel pos s = .ok (some (pos', s'))) :
    s'.msg.data = s.msg.data ∧ s'.msg.size = s.msg.size := by
  induction fuel generalizing pos s with
  | zero => cases h
  | succ fuel ih =>
      rw [attributes_succ] at h
      split at h
      · obtain ⟨attrType, -, h⟩ := Checked.bind_eq_ok.1 h
        obtain ⟨attrLength, -, h⟩ := Checked.bind_eq_ok.1 h
        split at h
        · cases h
        split at h
        · cases h
        split at h
        · cases h
        obtain ⟨s₁, hattr, h⟩ := Checked.bind_eq_ok.1 h
        have hstep := attribute_data hattr
        have hrun := ih h
        exact ⟨hrun.1.trans hstep.1, hrun.2.trans hstep.2⟩
      · cases h
        exact ⟨rfl, rfl⟩

/-- A packet that is recognized has a header. -/
theorem le_length_of_isStun (h : isStun d = true) : 20 ≤ d.length := by
  simp only [isStun, Bool.and_eq_true, decide_eq_true_eq] at h
  exact h.1.1

/-- A message that `parse` returns has the bytes as its data, with their length in the length
field. -/
theorem parse_data (h : parse c d = .ok (some p)) :
    p.data = d ∧ get2Bytes p.data 2 = .ok (UInt16.ofNat p.size - 20) := by
  rw [parse] at h
  split at h
  · cases h
  next hstun =>
  obtain ⟨msgType, -, h⟩ := Checked.bind_eq_ok.1 h
  obtain ⟨msgLength, hlength, h⟩ := Checked.bind_eq_ok.1 h
  split at h
  · cases h
  next hmatch =>
  obtain ⟨o, hloop, h⟩ := Checked.bind_eq_ok.1 h
  split at h
  · cases h
  next pos s =>
  obtain ⟨hdata, hsize⟩ := attributes_data hloop
  split at h
  · cases h
  obtain ⟨ok, -, h⟩ := Checked.bind_eq_ok.1 h
  split at h
  · cases h
  cases h
  refine ⟨hdata, ?_⟩
  rw [hdata, hsize, hlength]
  have hlen : 20 ≤ d.length := by
    rw [Bool.not_eq_true', Bool.not_eq_false] at hstun
    exact le_length_of_isStun hstun
  have hlt := msgLength.toNat_lt
  refine congrArg _ (UInt16.toNat_inj.1 ?_)
  rw [UInt16.toNat_sub, UInt16.toNat_ofNat']
  change _ = (65536 - 20 + d.length % 65536) % 65536
  omega

end

/-! ## CheckAuthentication -/

section
variable {c : Crypto} {m : Message} {data data' : List UInt8} {length length' : UInt16}

/-- A length that is written and written over by the old one leaves the data as they were. -/
theorem setLength_setLength (h : get2Bytes data 2 = .ok length)
    (hset : m.setLength data length' = .ok data') : m.setLength data' length = .ok data := by
  rw [Message.setLength] at hset ⊢
  split at hset
  case isTrue hfp =>
    rw [if_pos hfp]
    exact write_restore (get2Bytes_eq_ok h) (length_beBytes 2 _) hset
  case isFalse hfp =>
    rw [if_neg hfp]
    exact congrArg _ (Except.ok.inj hset).symm

/-- The length in the header is restored after the integrity was computed. -/
theorem verify_data {messageIntegrity : Nat} {localPassword : List UInt8} {r : Authentication}
    (hlength : get2Bytes m.data 2 = .ok (UInt16.ofNat m.size - 20))
    (h : m.verify c messageIntegrity localPassword = .ok (r, data')) : data' = m.data := by
  obtain ⟨data₁, hset, h⟩ := Checked.bind_eq_ok.1 h
  obtain ⟨bytes, -, h⟩ := Checked.bind_eq_ok.1 h
  obtain ⟨received, -, h⟩ := Checked.bind_eq_ok.1 h
  rw [setLength_setLength hlength hset] at h
  cases h
  rfl

/-- **The data stay.** `checkAuthentication` leaves the data of a message with the right length field
as they were. -/
theorem checkAuthentication_data {localUsername localPassword : List UInt8} {r : Authentication}
    (hlength : get2Bytes m.data 2 = .ok (UInt16.ofNat m.size - 20))
    (h : m.checkAuthentication c localUsername localPassword = .ok (r, data')) :
    data' = m.data := by
  rw [Message.checkAuthentication] at h
  split at h
  · cases h
    rfl
  · cases h
    rfl
  all_goals
    split at h
    · cases h
      rfl
    split at h
    · cases h
      rfl
    split at h
    · cases h
      rfl
    · exact verify_data hlength h

end

section
variable {c : Crypto} {m M : Message} (l : Layout c m) {tail : List UInt8}

theorem set2Bytes_header {typeField length : UInt16} {id : TransactionId} {z : List UInt8}
    (length' : UInt16) :
    set2Bytes (header typeField length id ++ z) 2 length' = .ok (header typeField length' id ++ z) := by
  simp only [header, List.append_assoc]
  exact write_append (a := beBytes 2 typeField.toNat) (by simp only [length_beBytes])

/-- With the length that leaves FINGERPRINT out, the bytes before MESSAGE-INTEGRITY are those that
its value was computed from. -/
theorem Layout.read_integrity (hadd : m.addMessageIntegrity = true) {data : List UInt8}
    (hdata : data = header m.typeField (UInt16.ofNat m.serialisedSize - 20 - 8) m.transactionId ++
      (tlvBytes l.attrs ++ (tlvBytes l.integrity ++ tail))) :
    ∃ bytes, read data 0 (20 + (tlvBytes l.attrs).length) = .ok bytes ∧
      read data (20 + (tlvBytes l.attrs).length + 4) 20 = .ok (c.getHmacSha1 m.password bytes) := by
  have hpairs := l.integrity_pairs
  rw [hadd, if_pos rfl] at hpairs
  obtain ⟨t, hts, htype⟩ := List.map_eq_singleton_iff.1 hpairs
  obtain ⟨-, hvalue⟩ := Prod.mk.inj htype
  have hlen : (header m.typeField (UInt16.ofNat m.serialisedSize - 20 - 8) m.transactionId ++
      tlvBytes l.attrs).length = 20 + (tlvBytes l.attrs).length := by
    rw [List.length_append, length_header]
  have hd : data = (header m.typeField (UInt16.ofNat m.serialisedSize - 20 - 8) m.transactionId ++
      tlvBytes l.attrs) ++ (t.bytes ++ tail) := by
    rw [hdata, hts]
    simp only [tlvBytes, List.flatMap_cons, List.flatMap_nil, List.append_nil, List.append_assoc]
  refine ⟨header m.typeField (UInt16.ofNat m.serialisedSize - 20 - 8) m.transactionId ++
    tlvBytes l.attrs, ?_, ?_⟩
  · rw [hd]
    exact read_mid (a := []) rfl hlen.symm
  · have hread := read_value hd
    rw [hlen, hvalue, c.length_getHmacSha1] at hread
    exact hread

end

/-- The message has what was written in front of its data, and the class and the username that it was
written for. -/
structure Message.Carries (M : Message) {c : Crypto} {m : Message} (l : Layout c m) : Prop where
  klass : M.klass = m.klass
  username : M.username = m.username
  data : ∃ tail, M.data = l.bytes ++ tail
  size : M.size = m.serialisedSize
  messageIntegrity : M.messageIntegrity = l.messageIntegrity
  hasFingerprint : M.hasFingerprint = true

section
variable {c : Crypto} {m M : Message} {l : Layout c m}

/-- The HMAC is that of MESSAGE-INTEGRITY if the password is. -/
theorem Message.Carries.verify (h : M.Carries l) (hadd : m.addMessageIntegrity = true)
    (localPassword : List UInt8) :
    ∃ r, M.verify c (20 + (tlvBytes l.attrs).length + 4) localPassword = .ok (r, M.data) ∧
      (localPassword = m.password → r = .ok) := by
  obtain ⟨tail, hdata⟩ := h.data
  have hd : M.data = header m.typeField (UInt16.ofNat m.serialisedSize - 20) m.transactionId ++
      (tlvBytes l.attrs ++ (tlvBytes l.integrity ++ (tlvBytes l.fingerprint ++ tail))) := by
    rw [hdata]
    simp only [Layout.bytes, Layout.front, List.append_assoc]
  have hlength : get2Bytes M.data 2 = .ok (UInt16.ofNat M.size - 20) := by
    rw [h.size]
    exact get2Bytes_length hd
  have hset : M.setLength M.data (UInt16.ofNat M.size - 20 - 8) = .ok
      (header m.typeField (UInt16.ofNat m.serialisedSize - 20 - 8) m.transactionId ++
        (tlvBytes l.attrs ++ (tlvBytes l.integrity ++ (tlvBytes l.fingerprint ++ tail)))) := by
    rw [Message.setLength, if_pos h.hasFingerprint, hd, h.size]
    exact set2Bytes_header _
  obtain ⟨bytes, hbytes, hreceived⟩ := l.read_integrity hadd rfl
  refine ⟨if c.getHmacSha1 m.password bytes = c.getHmacSha1 localPassword bytes then .ok
    else .unauthorized, ?_, fun hpw => if_pos (by rw [hpw])⟩
  exact Checked.bind_eq_ok.2 ⟨_, hset, Checked.bind_eq_ok.2 ⟨_, hbytes,
    Checked.bind_eq_ok.2 ⟨_, hreceived, Checked.bind_eq_ok.2 ⟨_, setLength_setLength hlength hset,
      rfl⟩⟩⟩⟩

/-- `checkAuthentication` of what `serialize` writes returns, and it returns OK for the username and
the password that it was made with. -/
theorem Message.Carries.checkAuthentication (h : M.Carries l)
    (localUsername localPassword : List UInt8) :
    ∃ r, M.checkAuthentication c localUsername localPassword = .ok (r, M.data) ∧
      (m.klass = .request → m.addMessageIntegrity = true → M.username ≠ [] →
        M.startsWith localUsername = true → localPassword = m.password → r = .ok) := by
  rw [Message.checkAuthentication, h.messageIntegrity, Layout.messageIntegrity, h.klass]
  cases hadd : m.addMessageIntegrity with
  | false =>
      refine ⟨.badRequest, ?_, fun _ h => (by cases h)⟩
      cases m.klass <;> rfl
  | true =>
      obtain ⟨r, hr, hok⟩ := h.verify hadd localPassword
      have hchecks : ∃ r', (if M.username = [] then .ok (.badRequest, M.data)
          else if !M.startsWith localUsername then .ok (.unauthorized, M.data)
          else .ok (r, M.data) : Except Fault (Authentication × List UInt8)) = .ok (r', M.data) ∧
          (M.username ≠ [] → M.startsWith localUsername = true → localPassword = m.password →
            r' = .ok) := by
        split
        case isTrue hu => exact ⟨.badRequest, rfl, fun h => absurd hu h⟩
        split
        case isTrue hs => exact ⟨.unauthorized, rfl, fun _ h => (by rw [h] at hs; cases hs)⟩
        · exact ⟨r, rfl, fun _ _ => hok⟩
      obtain ⟨r', hr', hok'⟩ := hchecks
      simp only [if_true, hr]
      cases m.klass with
      | successResponse => exact ⟨.badRequest, rfl, fun h => (by cases h)⟩
      | errorResponse => exact ⟨.badRequest, rfl, fun h => (by cases h)⟩
      | request => exact ⟨r', hr', fun _ _ => hok'⟩
      | indication => exact ⟨r', hr', fun h => (by cases h)⟩

/-- A user name of the local one, a colon and the remote one begins with the local one. -/
theorem startsWith_colon {remote localUsername : List UInt8}
    (h : M.username = localUsername ++ 0x3A :: remote) :
    M.username ≠ [] ∧ M.startsWith localUsername = true := by
  refine ⟨by rw [h]; simp, ?_⟩
  simp [Message.startsWith, h]

/-- A request that was made for this username with a password is OK. -/
theorem Message.Carries.authenticates (h : M.Carries l) {user remote : List UInt8}
    (hreq : m.klass = .request) (hname : m.username = user ++ 0x3A :: remote)
    (hpw : m.password ≠ []) : M.checkAuthentication c user m.password = .ok (.ok, M.data) := by
  obtain ⟨r, hr, hok⟩ := h.checkAuthentication user m.password
  obtain ⟨hne, hstarts⟩ := startsWith_colon (h.username.trans hname)
  have hadd : m.addMessageIntegrity = true := by simp [Message.addMessageIntegrity, hreq, hpw]
  rw [hr, hok hreq hadd hne hstarts rfl]

end

/-! ## The codec and the authentication -/

/-- The attributes that `parse` has a case for, with the flags. -/
structure Values where
  username : List UInt8
  priority : UInt32
  iceControlling : UInt64
  iceControlled : UInt64
  hasUseCandidate : Bool
  errorCode : UInt16
  hasMessageIntegrity : Bool
  hasFingerprint : Bool
  deriving DecidableEq

def Message.values (m : Message) : Values :=
  { username := m.username, priority := m.priority, iceControlling := m.iceControlling
    iceControlled := m.iceControlled, hasUseCandidate := m.hasUseCandidate
    errorCode := m.errorCode, hasMessageIntegrity := m.messageIntegrity.isSome
    hasFingerprint := m.hasFingerprint }

/-- **The STUN codec.** What `serialize` writes for a BINDING message of at most 65532 bytes is
accepted by `parse`, with the same header, attributes and flags; the error code comes back for the
class that has it. `checkAuthentication`, of the message that was written or of the one that was
parsed, returns and leaves the data as they were, and it returns OK for a request with the username
`local:remote` and a password. It leaves the data of any message that `parse` returns as they were. -/
theorem serialize_parse_checkAuthentication (c : Crypto) (m : Message) (hm : m.method = binding)
    (hcode : m.errorCode.toNat < 25600) (hsize : m.serialisedSize ≤ 65532) (buffer : List UInt8)
    (hroom : m.serialisedSize ≤ buffer.length) :
    (∃ q p, m.serialize c buffer = .ok q ∧ parse c (q.data.take q.size) = .ok (some p) ∧
      p.klass = m.klass ∧ p.method = m.method ∧ p.transactionId = m.transactionId ∧
      q.values = { m.values with
        hasMessageIntegrity := m.addMessageIntegrity, hasFingerprint := true } ∧
      p.values = { q.values with
        errorCode := if m.klass = .errorResponse then m.errorCode else 0 } ∧
      ∀ M, M = q ∨ M = p →
        (∀ user password, ∃ r, M.checkAuthentication c user password = .ok (r, M.data)) ∧
        ∀ user remote, m.klass = .request → m.username = user ++ 0x3A :: remote → m.password ≠ [] →
          M.checkAuthentication c user m.password = .ok (.ok, M.data)) ∧
    ∀ d p, parse c d = .ok (some p) → ∀ user password r data,
      p.checkAuthentication c user password = .ok (r, data) → data = d := by
  refine ⟨?_, fun d p hp user password r data h => ?_⟩
  · obtain ⟨l, data, hser, hbytes, hlen⟩ := serialize_ok c m buffer hsize hroom
    have hparse := l.parse_bytes hm hcode hsize hlen
    have hflag : l.messageIntegrity.isSome = m.addMessageIntegrity := by
      rw [Layout.messageIntegrity]
      cases m.addMessageIntegrity <;> rfl
    refine ⟨_, l.message, hser, by rw [hbytes, hparse], rfl, rfl, rfl, ?_, rfl, ?_⟩
    · simp only [Message.values, hflag]
    · have hq : Message.Carries (M := { m with
          data, size := m.serialisedSize, messageIntegrity := l.messageIntegrity
          hasFingerprint := true }) l :=
        ⟨rfl, rfl, ⟨data.drop m.serialisedSize, by rw [← hbytes, List.take_append_drop]⟩, rfl, rfl,
          rfl⟩
      have hp : l.message.Carries l := ⟨rfl, rfl, ⟨[], (List.append_nil _).symm⟩, hlen, rfl, rfl⟩
      rintro M hM
      have hcarries : M.Carries l := by
        rcases hM with rfl | rfl
        · exact hq
        · exact hp
      refine ⟨fun user password => ?_, fun user remote => hcarries.authenticates⟩
      obtain ⟨r, hr, -⟩ := hcarries.checkAuthentication user password
      exact ⟨r, hr⟩
  · obtain ⟨hdata, hlength⟩ := parse_data hp
    rw [checkAuthentication_data hlength h, hdata]

/-- An HMAC and a CRC32 for the examples. -/
def sampleCrypto : Crypto :=
  { getHmacSha1 := fun key data => List.replicate 20 (UInt8.ofNat (key.length + data.length))
    getCrc32 := fun data => UInt32.ofNat data.length
    length_getHmacSha1 := fun _ _ => List.length_replicate }

/-- A BINDING request with the username `a:b` and a priority. -/
def sampleRequest (password : List UInt8) (errorCode : UInt16) : Message :=
  { klass := .request, method := binding, transactionId := ⟨List.replicate 12 7, rfl⟩
    username := [0x61, 0x3A, 0x62], priority := 5, errorCode, password }

/-- A request with a user name and a password. -/
theorem serialize_parse_checkAuthentication_sample :
    ∃ q p, (sampleRequest [1] 0).serialize sampleCrypto (List.replicate 100 0) = .ok q ∧
      parse sampleCrypto (q.data.take q.size) = .ok (some p) ∧ p.values = q.values ∧
      p.checkAuthentication sampleCrypto [0x61] [1] = .ok (.ok, p.data) := by
  obtain ⟨⟨q, p, hser, hparse, -, -, -, hq, hp, hcheck⟩, -⟩ :=
    serialize_parse_checkAuthentication sampleCrypto (sampleRequest [1] 0) rfl (by decide) (by decide)
      (List.replicate 100 0) (by decide)
  refine ⟨q, p, hser, hparse, ?_,
    (hcheck p (.inr rfl)).2 [0x61] [0x62] rfl rfl (by decide)⟩
  rw [hp, hq]
  rfl

/-- A request with an error code and no password: the code does not come back, and the message is not
authenticated with the empty password. -/
theorem request_without_password : (sampleRequest [] 400).serialisedSize ≤ 65532 ∧
    ∃ q p, (sampleRequest [] 400).serialize sampleCrypto (List.replicate 100 0) = .ok q ∧
      parse sampleCrypto (q.data.take q.size) = .ok (some p) ∧
      p.errorCode = 0 ∧ (sampleRequest [] 400).errorCode = 400 ∧
      p.checkAuthentication sampleCrypto [0x61] [] = .ok (.badRequest, p.data) := by
  obtain ⟨l, data, hser, hbytes, hlen⟩ := serialize_ok sampleCrypto (sampleRequest [] 400)
    (List.replicate 100 0) (by decide) (by decide)
  refine ⟨by decide, _, l.message, hser, ?_, rfl, rfl, rfl⟩
  rw [hbytes, l.parse_bytes rfl (by decide) (by decide) hlen]

end KoreWebsocket.Stun
