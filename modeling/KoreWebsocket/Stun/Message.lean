import KoreWebsocket.Utils.Byte

/-!
# STUN messages (`RTC::StunMessage`, `mediasoup_1/soup`)

A `Message` is the object. Its `data` is the buffer that the pointer `data` has, and a place in it
stands for the pointer `messageIntegrity`. `parse`, `serialize` and `checkAuthentication` are in
`Except Fault`: an access outside a buffer, a loop that does not end and a failed assertion are
faults. HMAC-SHA1 and CRC32 are parameters (`Crypto`).
-/

namespace KoreWebsocket.Stun

open Bytes Byte

/-! ## The message -/

/-- `StunMessage::Class`. -/
inductive Class
  | request | indication | successResponse | errorResponse
  deriving DecidableEq, Repr

def Class.code : Class → UInt16
  | .request => 0
  | .indication => 1
  | .successResponse => 2
  | .errorResponse => 3

/-- `static_cast<Class>` of the two bits of the class. -/
def Class.ofCode (code : UInt16) : Class :=
  if code = 0 then .request
  else if code = 1 then .indication
  else if code = 2 then .successResponse
  else .errorResponse

/-- `StunMessage::Method::BINDING`. -/
def binding : UInt16 := 1

/-- `StunMessage::Attribute`. -/
inductive Attribute
  | mappedAddress | username | messageIntegrity | errorCode | unknownAttributes | realm | nonce
  | xorMappedAddress | priority | useCandidate | software | alternateServer | fingerprint
  | iceControlled | iceControlling
  deriving DecidableEq, Repr

def Attribute.code : Attribute → UInt16
  | .mappedAddress => 0x0001
  | .username => 0x0006
  | .messageIntegrity => 0x0008
  | .errorCode => 0x0009
  | .unknownAttributes => 0x000A
  | .realm => 0x0014
  | .nonce => 0x0015
  | .xorMappedAddress => 0x0020
  | .priority => 0x0024
  | .useCandidate => 0x0025
  | .software => 0x8022
  | .alternateServer => 0x8023
  | .fingerprint => 0x8028
  | .iceControlled => 0x8029
  | .iceControlling => 0x802A

/-- The attributes that the `switch` of `Parse` has a case for. -/
def Attribute.parsed : List Attribute :=
  [.username, .priority, .iceControlling, .iceControlled, .useCandidate, .messageIntegrity,
    .fingerprint, .errorCode]

/-- The case that `switch (attrType)` takes, if it is not the default. -/
def Attribute.ofCode (attrType : UInt16) : Option Attribute :=
  Attribute.parsed.find? fun a => a.code = attrType

/-- `StunMessage::Authentication`. -/
inductive Authentication
  | ok | unauthorized | badRequest
  deriving DecidableEq, Repr

/-- `struct sockaddr`, by its family. -/
inductive SockAddr
  | inet (port : UInt16) (addr : UInt32)
  | inet6 (port : UInt16) (addr : BitVec 128)
  | other

/-- The twelve bytes of a transaction id. -/
abbrev TransactionId := { id : List UInt8 // id.length = 12 }

/-- The pointer `data + i`, as a transaction id. -/
def transactionIdAt (d : List UInt8) (i : Nat) : TransactionId :=
  ⟨(List.range 12).map fun k => d.getD (i + k) 0, by simp⟩

/-- `class StunMessage`. -/
structure Message where
  klass : Class
  method : UInt16
  transactionId : TransactionId
  data : List UInt8 := []
  size : Nat := 0
  username : List UInt8 := []
  priority : UInt32 := 0
  iceControlling : UInt64 := 0
  iceControlled : UInt64 := 0
  hasUseCandidate : Bool := false
  messageIntegrity : Option Nat := none
  hasFingerprint : Bool := false
  xorMappedAddress : Option SockAddr := none
  errorCode : UInt16 := 0
  password : List UInt8 := []

/-- `Utils::Crypto`. A result of `GetHmacShA1` has 20 bytes. -/
structure Crypto where
  getHmacSha1 : List UInt8 → List UInt8 → List UInt8
  getCrc32 : List UInt8 → UInt32
  length_getHmacSha1 : ∀ key data, (getHmacSha1 key data).length = 20

namespace Message

variable (m : Message)

def setUsername (username : List UInt8) : Message :=
  if m.username = [] then { m with username } else m

def setPriority (priority : UInt32) : Message :=
  if m.priority = 0 then { m with priority } else m

def setIceControlling (iceControlling : UInt64) : Message :=
  if m.iceControlling = 0 then { m with iceControlling } else m

def setIceControlled (iceControlled : UInt64) : Message :=
  if m.iceControlled = 0 then { m with iceControlled } else m

def setUseCandidate : Message := { m with hasUseCandidate := true }

def setErrorCode (errorCode : UInt16) : Message := { m with errorCode }

def setMessageIntegrity (place : Nat) : Message :=
  if m.messageIntegrity = none then { m with messageIntegrity := some place } else m

def setFingerprint : Message := { m with hasFingerprint := true }

end Message

/-! ## Parse -/

def magicCookie : List UInt8 := [0x21, 0x12, 0xA4, 0x42]

/-- `StunMessage::IsStun`. -/
def isStun (d : List UInt8) : Bool :=
  20 ≤ d.length && d.getD 0 0 < 3 && (d.drop 4).take 4 == magicCookie

/-- The variables of the loop over the attributes. -/
structure Scan where
  msg : Message
  hasMessageIntegrity : Bool := false
  hasFingerprint : Bool := false
  fingerprintAttrPos : Nat := 0
  fingerprint : UInt32 := 0

/-- The `switch` over the type of an attribute at `pos`. The values of a fixed size are read whatever
the announced length is. -/
def Scan.attribute (s : Scan) (d : List UInt8) (pos attrLength : Nat) (attrType : UInt16) :
    Except Fault Scan :=
  let attrValuePos := pos + 4
  match Attribute.ofCode attrType with
  | some .username => do
      return { s with msg := s.msg.setUsername (← read d attrValuePos attrLength) }
  | some .priority => do
      return { s with msg := s.msg.setPriority (← get4Bytes d attrValuePos) }
  | some .iceControlling => do
      return { s with msg := s.msg.setIceControlling (← get8Bytes d attrValuePos) }
  | some .iceControlled => do
      return { s with msg := s.msg.setIceControlled (← get8Bytes d attrValuePos) }
  | some .useCandidate => return { s with msg := s.msg.setUseCandidate }
  | some .messageIntegrity =>
      return { s with
        hasMessageIntegrity := true, msg := s.msg.setMessageIntegrity attrValuePos }
  | some .fingerprint => do
      let fingerprint ← get4Bytes d attrValuePos
      return { s with
        hasFingerprint := true, fingerprintAttrPos := pos, fingerprint, msg := s.msg.setFingerprint }
  | some .errorCode => do
      let errorClass ← get1Byte d (attrValuePos + 2)
      let errorNumber ← get1Byte d (attrValuePos + 3)
      return { s with
        msg := s.msg.setErrorCode (UInt16.ofNat (errorClass.toNat * 100 + errorNumber.toNat)) }
  | _ => return s

/-- The body of the loop over the attributes: the variables of the next round, unless the message is
discarded. -/
def Scan.round (s : Scan) (d : List UInt8) (pos : Nat) : Except Fault (Option (Nat × Scan)) := do
  let attrType ← get2Bytes d pos
  let attrLength ← get2Bytes d (pos + 2)
  if d.length < pos + 4 + attrLength.toNat then return none
  if s.hasFingerprint then return none
  if s.hasMessageIntegrity ∧ attrType ≠ Attribute.fingerprint.code then return none
  let s ← s.attribute d pos attrLength.toNat attrType
  return some (padTo4Bytes (pos + 4 + attrLength.toNat), s)

/-- The loop over the attributes: the last position and the message, unless it is discarded. -/
def attributes (d : List UInt8) : Nat → Nat → Scan → Except Fault (Option (Nat × Scan))
  | 0, _, _ => .error .loops
  | fuel + 1, pos, s =>
      if pos + 4 ≤ d.length then do
        match ← s.round d pos with
        | none => return none
        | some (pos, s) => attributes d fuel pos s
      else return some (pos, s)

/-- The loop, with its body. -/
theorem attributes_succ (d : List UInt8) (fuel pos : Nat) (s : Scan) : attributes d (fuel + 1) pos s =
    if pos + 4 ≤ d.length then do
      let attrType ← get2Bytes d pos
      let attrLength ← get2Bytes d (pos + 2)
      if d.length < pos + 4 + attrLength.toNat then return none
      if s.hasFingerprint then return none
      if s.hasMessageIntegrity ∧ attrType ≠ Attribute.fingerprint.code then return none
      let s ← s.attribute d pos attrLength.toNat attrType
      attributes d fuel (padTo4Bytes (pos + 4 + attrLength.toNat)) s
    else return some (pos, s) := by
  rw [attributes, Scan.round]
  split
  case isFalse => rfl
  case isTrue =>
    cases get2Bytes d pos with
    | error fault => rfl
    | ok attrType =>
        cases get2Bytes d (pos + 2) with
        | error fault => rfl
        | ok attrLength =>
            simp only [Checked.ok_bind]
            split
            · rfl
            · split
              · rfl
              · split
                · rfl
                · cases s.attribute d pos attrLength.toNat attrType <;> rfl

/-- The loop has fewer positions and flags than this, so it does not end if it takes more rounds. -/
def rounds : Nat := 4 * 65536

/-- The FINGERPRINT attribute, if there is one, has the right value. -/
def Scan.checkFingerprint (c : Crypto) (s : Scan) (d : List UInt8) : Except Fault Bool :=
  if s.hasFingerprint then do
    let computedFingerprint := c.getCrc32 (← read d 0 s.fingerprintAttrPos) ^^^ 0x5354554e
    return s.fingerprint = computedFingerprint
  else return true

/-- The bits of the method in the type field, in three parts. -/
def methodOf (msgType : UInt16) : UInt16 :=
  let low : UInt16 := msgType &&& 0x000f
  let mid : UInt16 := (msgType &&& 0x00e0) >>> 1
  let high : UInt16 := (msgType &&& 0x3E00) >>> 2
  low ||| mid ||| high

/-- The bits of the class in the first two bytes. -/
def classOf (b₀ b₁ : UInt8) : Class :=
  let c₁ : UInt8 := (b₀ &&& 0x01) <<< 1
  let c₀ : UInt8 := (b₁ &&& 0x10) >>> 4
  Class.ofCode (c₁ ||| c₀).toUInt16

/-- `StunMessage::Parse`. -/
def parse (c : Crypto) (d : List UInt8) : Except Fault (Option Message) := do
  if !isStun d then return none
  let msgType ← get2Bytes d 0
  let msgLength ← get2Bytes d 2
  if msgLength.toNat ≠ d.length - 20 ∨ msgLength.toNat % 4 ≠ 0 then return none
  let msg : Message :=
    { klass := classOf (d.getD 0 0) (d.getD 1 0), method := methodOf msgType
      transactionId := transactionIdAt d 8, data := d, size := d.length }
  match ← attributes d rounds 20 { msg } with
  | none => return none
  | some (pos, s) =>
      if pos ≠ d.length then return none
      if !(← s.checkFingerprint c d) then return none
      return some s.msg

/-! ## Serialize -/

/-- An attribute to add, if it is present: its length field, its value and the padded length. -/
structure Field where
  present : Bool
  attr : Attribute
  length : UInt16
  value : List UInt8
  padded : Nat

/-- The attribute is written at the position, which moves behind it. -/
def Field.add (f : Field) : List UInt8 × Nat → Except Fault (List UInt8 × Nat)
  | (buf, pos) =>
      if f.present then do
        let buf ← set2Bytes buf pos f.attr.code
        let buf ← set2Bytes buf (pos + 2) f.length
        let buf ← write buf (pos + 4) f.value
        return (buf, pos + 4 + f.padded)
      else return (buf, pos)

/-- The bytes that XOR-MAPPED-ADDRESS has for an address, if there is a family for it. -/
def SockAddr.xorMapped (addr : SockAddr) (transactionId : TransactionId) : Option (List UInt8) :=
  match addr with
  | .inet port addr =>
      some ([0, 0x01] ++ (beBytes 2 port.toNat).zipWith (· ^^^ ·) magicCookie ++
        (beBytes 4 addr.toNat).zipWith (· ^^^ ·) magicCookie)
  | .inet6 port addr =>
      some ([0, 0x02] ++ (beBytes 2 port.toNat).zipWith (· ^^^ ·) magicCookie ++
        (beBytes 16 addr.toNat).zipWith (· ^^^ ·) (magicCookie ++ transactionId.1))
  | .other => none

namespace Message

variable (m : Message)

/-- The value of the XOR-MAPPED-ADDRESS attribute, if it is added. -/
def xorMappedAddressValue : Option (List UInt8) :=
  if m.method = binding ∧ m.klass = .successResponse then
    m.xorMappedAddress.bind (·.xorMapped m.transactionId)
  else none

def addErrorCode : Bool := m.errorCode ≠ 0 ∧ m.klass = .errorResponse

def addMessageIntegrity : Bool := m.klass ≠ .errorResponse ∧ m.password ≠ []

/-- The total required size, with the padded length of the username. -/
def sizeWith (usernamePaddedLen : Nat) : Nat :=
  20 + (if m.username ≠ [] then 4 + usernamePaddedLen else 0) + (if m.priority ≠ 0 then 4 + 4 else 0) +
    (if m.iceControlling ≠ 0 then 4 + 8 else 0) + (if m.iceControlled ≠ 0 then 4 + 8 else 0) +
    (if m.hasUseCandidate then 4 else 0) +
    (m.xorMappedAddressValue.elim 0 fun value => 4 + value.length) +
    (if m.addErrorCode then 4 + 4 else 0) + (if m.addMessageIntegrity then 4 + 20 else 0) + (4 + 4)

def usernamePaddedLen : Nat := if m.username ≠ [] then padTo4Bytes m.username.length else 0

/-- The class and the method, merged. -/
def typeField : UInt16 :=
  let high : UInt16 := (m.method &&& 0x0f80) <<< 2
  let mid : UInt16 := (m.method &&& 0x0070) <<< 1
  let low : UInt16 := m.method &&& 0x000f
  let c₁ : UInt16 := (m.klass.code &&& 0x02) <<< 7
  let c₀ : UInt16 := (m.klass.code &&& 0x01) <<< 4
  high ||| mid ||| low ||| c₁ ||| c₀

/-- The value of ERROR-CODE. -/
def errorCodeValue : List UInt8 :=
  let codeClass := UInt8.ofNat (m.errorCode.toNat / 100)
  let codeNumber := m.errorCode.toUInt8 - codeClass * 100
  [0, 0, codeClass, codeNumber]

/-- The attributes before MESSAGE-INTEGRITY, in the order in which they are added. -/
def fields : List Field :=
  let address := m.xorMappedAddressValue.getD []
  [⟨m.usernamePaddedLen ≠ 0, .username, UInt16.ofNat m.username.length, m.username,
      m.usernamePaddedLen⟩,
    ⟨m.priority ≠ 0, .priority, 4, beBytes 4 m.priority.toNat, 4⟩,
    ⟨m.iceControlling ≠ 0, .iceControlling, 8, beBytes 8 m.iceControlling.toNat, 8⟩,
    ⟨m.iceControlled ≠ 0, .iceControlled, 8, beBytes 8 m.iceControlled.toNat, 8⟩,
    ⟨m.hasUseCandidate, .useCandidate, 0, [], 0⟩,
    ⟨m.xorMappedAddressValue.isSome, .xorMappedAddress, UInt16.ofNat address.length, address,
      address.length⟩,
    ⟨m.addErrorCode, .errorCode, 4, m.errorCodeValue, 4⟩]

/-- MESSAGE-INTEGRITY: its place, if it is added. The length field leaves FINGERPRINT out while the
HMAC is computed. -/
def writeMessageIntegrity (c : Crypto) (size : Nat) :
    List UInt8 × Nat → Except Fault ((List UInt8 × Nat) × Option Nat)
  | (buf, pos) =>
      if m.addMessageIntegrity then do
        let buf ← set2Bytes buf 2 (UInt16.ofNat size - 20 - 8)
        let computedMessageIntegrity := c.getHmacSha1 m.password (← read buf 0 pos)
        let (buf, next) ←
          Field.add ⟨true, .messageIntegrity, 20, computedMessageIntegrity, 20⟩ (buf, pos)
        let buf ← set2Bytes buf 2 (UInt16.ofNat size - 20)
        return ((buf, next), some (pos + 4))
      else return ((buf, pos), none)

/-- FINGERPRINT, which is always added. -/
def writeFingerprint (c : Crypto) : List UInt8 × Nat → Except Fault (List UInt8 × Nat)
  | (buf, pos) => do
      let computedFingerprint := c.getCrc32 (← read buf 0 pos) ^^^ 0x5354554e
      Field.add ⟨true, .fingerprint, 4, beBytes 4 computedFingerprint.toNat, 4⟩ (buf, pos)

/-- The header. -/
def writeHeader (size : Nat) (buffer : List UInt8) : Except Fault (List UInt8) := do
  let buf ← set2Bytes buffer 0 m.typeField
  let buf ← set2Bytes buf 2 (UInt16.ofNat size - 20)
  let buf ← write buf 4 magicCookie
  write buf 8 m.transactionId.1

/-- `StunMessage::Serialize` into a buffer. -/
def serialize (c : Crypto) (buffer : List UInt8) : Except Fault Message := do
  let size := m.sizeWith m.usernamePaddedLen
  let buf ← m.writeHeader size buffer
  let out ← m.fields.foldlM (fun out f => f.add out) (buf, 20)
  let (out, messageIntegrity) ← m.writeMessageIntegrity c size out
  let (buf, pos) ← writeFingerprint c out
  ensure (pos = size) "pos != this->size"
  return { m with data := buf, size, messageIntegrity, hasFingerprint := true }

/-! ## CheckAuthentication -/

/-- The username begins with the local username and a colon. -/
def startsWith (localUsername : List UInt8) : Bool :=
  localUsername.length < m.username.length &&
    m.username.getD localUsername.length 0 == 0x3A &&
    m.username.take localUsername.length == localUsername

/-- The length field is set if there is a FINGERPRINT attribute. -/
def setLength (data : List UInt8) (length : UInt16) : Except Fault (List UInt8) :=
  if m.hasFingerprint then set2Bytes data 2 length else .ok data

/-- The HMAC of the message is compared with its MESSAGE-INTEGRITY. The length field leaves
FINGERPRINT out meanwhile. -/
def verify (c : Crypto) (messageIntegrity : Nat) (localPassword : List UInt8) :
    Except Fault (Authentication × List UInt8) := do
  let data ← m.setLength m.data (UInt16.ofNat m.size - 20 - 8)
  let computedMessageIntegrity :=
    c.getHmacSha1 localPassword (← read data 0 (messageIntegrity - 4))
  let received ← read data messageIntegrity 20
  let result : Authentication := if received = computedMessageIntegrity then .ok else .unauthorized
  let data ← m.setLength data (UInt16.ofNat m.size - 20)
  return (result, data)

/-- `StunMessage::CheckAuthentication`: the result and the data behind it. -/
def checkAuthentication (c : Crypto) (localUsername localPassword : List UInt8) :
    Except Fault (Authentication × List UInt8) :=
  match m.klass with
  | .successResponse | .errorResponse => return (.badRequest, m.data)
  | .request | .indication =>
      match m.messageIntegrity with
      | none => return (.badRequest, m.data)
      | some messageIntegrity =>
          if m.username = [] then return (.badRequest, m.data)
          else if !m.startsWith localUsername then return (.unauthorized, m.data)
          else m.verify c messageIntegrity localPassword

end Message

end KoreWebsocket.Stun
