import KoreWebsocket.Rtp.Packet

/-!
# The RTP codec

`Sections` is the format: a packet is its fixed header, CSRC list, header extension, payload and
padding, one behind the other, with the sizes that the header, the extension and the last byte of
the padding announce. `Packet.Shows` relates an object to the sections in its buffer. `parse` accepts
exactly the bytes of sections (`parse_serialize_clone`), and `serialize` and `clone` write the bytes of
the same sections, up to the bytes of the padding before its last one.
-/

namespace KoreWebsocket.Rtp

open Bytes

/-! ## The format -/

/-- The parts of an RTP packet. -/
structure Sections where
  header : List UInt8
  csrcs : List UInt8
  ext : List UInt8
  body : List UInt8
  pad : List UInt8
  header_length : header.length = headerSize
  header_version : version header = 2
  csrcs_length : csrcs.length = csrcCount header * 4
  ext_length : if extension header then 4 ≤ ext.length ∧ ext.length = 4 + get16 ext 2 * 4
    else ext = []
  pad_length : if padding header then pad ≠ [] ∧ pad.length = (pad.getD (pad.length - 1) 0).toNat
    else pad = []

/-- The packet. -/
def Sections.bytes (s : Sections) : List UInt8 := s.header ++ (s.csrcs ++ (s.ext ++ (s.body ++ s.pad)))

/-- The size of the header extension that the bytes announce. -/
def extensionSize (d : List UInt8) : Nat :=
  if extension d then 4 + get16 d (headerSize + csrcCount d * 4 + 2) * 4 else 0

/-- The size of the padding that the bytes announce. -/
def paddingSize (d : List UInt8) : Nat := if padding d then (d.getD (d.length - 1) 0).toNat else 0

/-- A packet of version 2 whose parts fit: its length is that of the fixed header, the CSRC list, the
header extension, a payload and the padding. -/
def Fits (d : List UInt8) : Prop :=
  headerSize ≤ d.length ∧ version d = 2 ∧
    (extension d = true → headerSize + csrcCount d * 4 + 4 ≤ d.length) ∧
    (padding d = true → d.getD (d.length - 1) 0 ≠ 0) ∧
    ∃ payload, d.length =
      headerSize + csrcCount d * 4 + extensionSize d + payload + paddingSize d

/-- The object has the places of the sections, which are at the front of its buffer. -/
structure Packet.Shows (p : Packet) (s : Sections) : Prop where
  buf : ∃ tail, p.buf = s.bytes ++ tail
  csrcList : p.csrcList = if csrcCount s.header ≠ 0 then some headerSize else none
  extensionHeader : p.extensionHeader =
    if extension s.header then some (headerSize + s.csrcs.length) else none
  payload : p.payload = headerSize + s.csrcs.length + s.ext.length
  payloadLength : p.payloadLength = s.body.length
  payloadPadding : p.payloadPadding.toNat = s.pad.length
  size : p.size = s.bytes.length

/-- What a packet has to say: the header with its fields, the CSRC list, the header extension, the
payload and the number of padding bytes. -/
structure Content where
  header : List UInt8
  csrcs : List UInt8
  ext : List UInt8
  payload : List UInt8
  padding : Nat
  deriving DecidableEq

/-- The content of an object, read from its buffer. -/
def Packet.content (p : Packet) : Content :=
  { header := p.buf.take headerSize
    csrcs := match p.csrcList with
      | none => []
      | some csrcList => (p.buf.drop csrcList).take (csrcCount p.buf * 4)
    ext := match p.extensionHeader with
      | none => []
      | some ext => (p.buf.drop ext).take (4 + p.getExtensionHeaderLength)
    payload := (p.buf.drop p.payload).take p.payloadLength
    padding := p.payloadPadding.toNat }

/-- Every range of the object lies in a buffer of this length. -/
def Packet.InBounds (p : Packet) (len : Nat) : Prop :=
  (∀ csrcList, p.csrcList = some csrcList → csrcList + csrcCount p.buf * 4 ≤ len) ∧
    (∀ ext, p.extensionHeader = some ext → ext + 4 + p.getExtensionHeaderLength ≤ len) ∧
    p.payload + p.payloadLength + p.payloadPadding.toNat ≤ len ∧ p.size ≤ len

/-! ## Reading the sections -/

section
variable {d a m z : List UInt8} {i n : Nat}

/-- A slice of the middle of three parts. -/
theorem slice_mid (hi : i = a.length) (hn : n = m.length) :
    ((a ++ (m ++ z)).drop i).take n = m := by
  rw [hi, hn, List.drop_left, List.take_left]

/-- A number in the middle of three parts. -/
theorem get16_mid (hi : i = a.length) (h : n + 2 ≤ m.length) :
    get16 (a ++ (m ++ z)) (i + n) = get16 m n := by
  rw [get16, get16, hi, ← List.drop_drop, List.drop_left, List.drop_append_of_le_length (by omega),
    List.take_append_of_le_length (by rw [List.length_drop]; omega)]

end

namespace Sections

variable (s : Sections) (tail : List UInt8)

/-- A packet is as long as its sections. -/
theorem length_bytes : s.bytes.length =
    headerSize + s.csrcs.length + s.ext.length + s.body.length + s.pad.length := by
  simp only [bytes, List.length_append, s.header_length]
  omega

/-- The first byte of a packet is that of its header. -/
theorem getD_zero : (s.bytes ++ tail).getD 0 0 = s.header.getD 0 0 := by
  have h : 0 < s.header.length := by rw [s.header_length]; decide
  rw [bytes, List.append_assoc, List.getD_eq_getElem?_getD, List.getD_eq_getElem?_getD,
    List.getElem?_append_left h]

theorem version_bytes : version (s.bytes ++ tail) = version s.header := by
  rw [version, version, getD_zero]

theorem padding_bytes : padding (s.bytes ++ tail) = padding s.header := by
  rw [padding, padding, getD_zero]

theorem extension_bytes : extension (s.bytes ++ tail) = extension s.header := by
  rw [extension, extension, getD_zero]

theorem csrcCount_bytes : csrcCount (s.bytes ++ tail) = csrcCount s.header := by
  rw [csrcCount, csrcCount, getD_zero]

/-- The header is in front of the packet. -/
theorem take_header : (s.bytes ++ tail).take headerSize = s.header := by
  rw [bytes, List.append_assoc, ← s.header_length, List.take_left]

/-- The CSRC list is behind the header. -/
theorem slice_csrcs : ((s.bytes ++ tail).drop headerSize).take (csrcCount s.header * 4) = s.csrcs := by
  rw [bytes, List.append_assoc, List.append_assoc]
  exact slice_mid s.header_length.symm s.csrcs_length.symm

/-- The sections, grouped around the extension. -/
theorem bytes_append_eq : s.bytes ++ tail =
    (s.header ++ s.csrcs) ++ (s.ext ++ (s.body ++ s.pad ++ tail)) := by
  simp only [bytes, List.append_assoc]

/-- The extension is behind the CSRC list. -/
theorem slice_ext :
    ((s.bytes ++ tail).drop (headerSize + s.csrcs.length)).take s.ext.length = s.ext := by
  rw [bytes_append_eq]
  exact slice_mid (by rw [List.length_append, s.header_length]) rfl

/-- The payload is behind the extension. -/
theorem slice_body : ((s.bytes ++ tail).drop (headerSize + s.csrcs.length + s.ext.length)).take
    s.body.length = s.body := by
  have : s.bytes ++ tail = (s.header ++ s.csrcs ++ s.ext) ++ (s.body ++ (s.pad ++ tail)) := by
    simp only [bytes, List.append_assoc]
  rw [this]
  exact slice_mid (by simp only [List.length_append, s.header_length]) rfl

/-- The length of the extension is read from it. -/
theorem get16_ext (h : extension s.header = true) :
    get16 (s.bytes ++ tail) (headerSize + s.csrcs.length + 2) = get16 s.ext 2 := by
  have hlen := s.ext_length
  rw [if_pos h] at hlen
  rw [bytes_append_eq]
  exact get16_mid (by rw [List.length_append, s.header_length]) (by omega)

/-- The last byte of the packet is that of the padding. -/
theorem getD_last (h : padding s.header = true) :
    s.bytes.getD (s.bytes.length - 1) 0 = s.pad.getD (s.pad.length - 1) 0 := by
  have hpad := s.pad_length
  rw [if_pos h] at hpad
  have hpos : 0 < s.pad.length := List.length_pos_iff.2 hpad.1
  have hb : s.bytes = (s.header ++ (s.csrcs ++ (s.ext ++ s.body))) ++ s.pad := by
    simp only [bytes, List.append_assoc]
  rw [hb, List.getD_eq_getElem?_getD, List.getD_eq_getElem?_getD,
    List.getElem?_append_right (by simp only [List.length_append]; omega)]
  congr 2
  simp only [List.length_append]
  omega

end Sections

/-! ## The elements of the header extension -/

section
variable (read : Nat → UInt8)

/-- The loop over the padding does not go back. -/
theorem le_skipPadding (n ptr : Nat) : ptr ≤ skipPadding read n ptr := by
  induction n generalizing ptr with
  | zero => exact Nat.le_refl _
  | succ n ih =>
      rw [skipPadding]
      split
      · exact Nat.le_trans (Nat.le_succ _) (ih _)
      · exact Nat.le_refl _

/-- The loop over the elements ends: each is at least one byte long. -/
theorem elements_ok (element : Element) (hnext : ∀ ptr, ptr < (element ptr).2.2) (extensionEnd : Nat)
    {fuel : Nat} (ptr : Nat) (map : UInt8 → Option Nat) (hfuel : extensionEnd - ptr < fuel) :
    ∃ map', elements read element extensionEnd fuel ptr map = .ok map' := by
  induction fuel generalizing ptr map with
  | zero => omega
  | succ fuel ih =>
      rw [elements]
      by_cases hend : extensionEnd ≤ ptr
      · exact ⟨map, if_pos hend⟩
      rw [if_neg hend]
      by_cases hover : extensionEnd < (element ptr).2.2
      · exact ⟨map, if_pos hover⟩
      have hskip := le_skipPadding read (extensionEnd - (element ptr).2.2) (element ptr).2.2
      have hlt := hnext ptr
      obtain ⟨map', h⟩ := ih
        (skipPadding read (extensionEnd - (element ptr).2.2) (element ptr).2.2)
        (Function.update map (element ptr).1 (some (element ptr).2.1)) (by omega)
      exact ⟨map', (if_neg hover).trans h⟩

end

/-- `parseExtensions` returns, and changes the two maps of elements only. -/
theorem Packet.parseExtensions_ok (p : Packet) (behind : UInt8) :
    ∃ one two, p.parseExtensions behind =
      .ok { p with oneByteExtensions := one, twoBytesExtensions := two } := by
  rw [parseExtensions]
  split
  · obtain ⟨map, h⟩ := elements_ok (fun i => p.buf.getD i behind)
      (oneByteElement fun i => p.buf.getD i behind) (fun _ => by simp [oneByteElement]; omega)
      (p.extensionHeader.getD 0 + 4 + p.getExtensionHeaderLength) _ (fun _ => none) (Nat.lt_succ_self _)
    exact ⟨map, p.twoBytesExtensions, by rw [h]; rfl⟩
  split
  · obtain ⟨map, h⟩ := elements_ok (fun i => p.buf.getD i behind)
      (twoBytesElement fun i => p.buf.getD i behind)
      (fun _ => by simp [twoBytesElement]; omega)
      (p.extensionHeader.getD 0 + 4 + p.getExtensionHeaderLength) _ (fun _ => none) (Nat.lt_succ_self _)
    exact ⟨p.oneByteExtensions, map, by rw [h]; rfl⟩
  · exact ⟨p.oneByteExtensions, p.twoBytesExtensions, rfl⟩

/-! ## Parse -/

/-- What `IsRtp` asks of a packet. -/
theorem isRtp_iff (d : List UInt8) : isRtp d = true ↔ headerSize ≤ d.length ∧ version d = 2 := by
  have hb : (127 < d.getD 0 0 ∧ d.getD 0 0 < 192) ↔ version d = 2 := by
    rw [version, UInt8.lt_iff_toNat_lt, UInt8.lt_iff_toNat_lt]
    change (127 < _ ∧ _ < 192) ↔ _
    omega
  simp only [isRtp, Bool.and_eq_true, decide_eq_true_eq, beq_iff_eq]
  tauto

section
variable {d : List UInt8} {ptr n : Nat}

/-- The extension is skipped if there is one, and has to end within the packet. -/
theorem checkExtension_eq_some {ext : Option Nat} {size next : Nat} :
    checkExtension d ptr = some (ext, size, next) ↔
      next = ptr + (if extension d then 4 + get16 d (ptr + 2) * 4 else 0) ∧
        ext = (if extension d then some ptr else none) ∧
        size = (if extension d then get16 d (ptr + 2) * 4 else 0) ∧
        (extension d = true → next ≤ d.length) := by
  rw [checkExtension]
  cases extension d with
  | false => simp; tauto
  | true =>
      simp only [if_true]
      split
      · simp; omega
      split
      · simp; omega
      · simp only [Option.some.injEq, Prod.mk.injEq, forall_const]
        exact ⟨by rintro ⟨rfl, rfl, rfl⟩; exact ⟨by omega, rfl, rfl, by omega⟩,
          by rintro ⟨rfl, rfl, rfl, -⟩; exact ⟨rfl, rfl, by omega⟩⟩

/-- The padding is taken off the payload, and is not empty if there is any. -/
theorem checkPadding_eq_some {length : Nat} {pad : UInt8} :
    checkPadding d n = some (length, pad) ↔
      pad = (if padding d then d.getD (d.length - 1) 0 else 0) ∧
        length + pad.toNat = n ∧ (padding d = true → pad ≠ 0) := by
  rw [checkPadding]
  cases padding d with
  | false =>
      simp only [Bool.false_eq_true, if_false, Option.some.injEq, Prod.mk.injEq, false_implies]
      exact ⟨by rintro ⟨rfl, rfl⟩; exact ⟨rfl, rfl, trivial⟩,
        by rintro ⟨rfl, rfl, -⟩; exact ⟨rfl, rfl⟩⟩
  | true =>
      simp only [if_true, forall_const]
      generalize d.getD (d.length - 1) 0 = last
      have hpos : last ≠ 0 → 0 < last.toNat := fun h =>
        Nat.pos_of_ne_zero fun he => h (UInt8.toNat_inj.1 he)
      split
      · refine ⟨fun h => (by cases h), ?_⟩
        rintro ⟨rfl, hn, h0⟩
        have := hpos h0
        omega
      split
      · refine ⟨fun h => (by cases h), ?_⟩
        rintro ⟨rfl, -, h0⟩
        contradiction
      split
      · refine ⟨fun h => (by cases h), ?_⟩
        rintro ⟨rfl, hn, -⟩
        omega
      · simp only [Option.some.injEq, Prod.mk.injEq]
        constructor
        · rintro ⟨rfl, rfl⟩
          exact ⟨rfl, by omega, by assumption⟩
        · rintro ⟨rfl, hn, -⟩
          exact ⟨by omega, rfl⟩

end

theorem toNat_padding (d : List UInt8) :
    (if padding d then d.getD (d.length - 1) 0 else 0).toNat = paddingSize d := by
  rw [paddingSize]
  split <;> rfl

/-- A buffer whose parts do not fit is discarded. -/
theorem fits_of_parse (behind : UInt8) {d : List UInt8} (h : parse behind d ≠ .ok none) : Fits d := by
  rw [parse] at h
  by_cases hrtp : isRtp d = true
  swap
  · exact absurd (by simp only [hrtp]; rfl) h
  by_cases hcsrc : csrcCount d ≠ 0 ∧ d.length < headerSize + csrcCount d * 4
  · exact absurd (by simp only [hrtp, if_pos hcsrc]; rfl) h
  rcases hext : checkExtension d (headerSize + csrcCount d * 4) with _ | ⟨ext, size, ptr⟩
  · exact absurd (by simp only [hrtp, if_neg hcsrc, hext]; rfl) h
  obtain ⟨hlen, hver⟩ := (isRtp_iff d).1 hrtp
  obtain ⟨hptr, -, -, hin⟩ := checkExtension_eq_some.1 hext
  have hsize : ptr = headerSize + csrcCount d * 4 + extensionSize d := hptr
  have hle : ptr ≤ d.length := by
    cases hx : extension d with
    | true => exact hin hx
    | false =>
        rw [hptr, hx]
        simp only [Bool.false_eq_true, if_false]
        omega
  rcases hpad : checkPadding d (d.length - ptr) with _ | ⟨length, pad⟩
  · exact absurd (by simp only [hrtp, if_neg hcsrc, hext, ensure_true hle, hpad]; rfl) h
  obtain ⟨rfl, hlength, hpos⟩ := checkPadding_eq_some.1 hpad
  refine ⟨hlen, hver, fun hx => ?_, fun hp => ?_, length, ?_⟩
  · rw [hptr, if_pos hx] at hle
    omega
  · rw [if_pos hp] at hpos
    exact hpos hp
  · rw [toNat_padding] at hlength
    omega

section
variable (s : Sections)

/-- The size of the extension, read from the packet. -/
theorem Sections.extensionSize_bytes : extensionSize s.bytes = s.ext.length := by
  have hx := s.extension_bytes []
  have hc := s.csrcCount_bytes []
  have hlen := s.ext_length
  rw [List.append_nil] at hx hc
  rw [extensionSize, hx, hc, ← s.csrcs_length]
  cases h : extension s.header with
  | false => rw [h] at hlen; simp at hlen; simp [hlen]
  | true =>
      have hget := s.get16_ext [] h
      rw [List.append_nil] at hget
      rw [h, if_pos rfl] at hlen
      rw [if_pos rfl, hget, hlen.2]

/-- The size of the padding, read from the packet. -/
theorem Sections.paddingSize_bytes : paddingSize s.bytes = s.pad.length := by
  have hp := s.padding_bytes []
  have hlen := s.pad_length
  rw [List.append_nil] at hp
  rw [paddingSize, hp]
  cases h : padding s.header with
  | false => rw [h] at hlen; simp at hlen; simp [hlen]
  | true =>
      rw [h, if_pos rfl] at hlen
      rw [if_pos rfl, s.getD_last h, ← hlen.2]

/-- The bytes of sections fit. -/
theorem Sections.fits : Fits s.bytes := by
  have hv := s.version_bytes []
  have hx := s.extension_bytes []
  have hp := s.padding_bytes []
  have hc := s.csrcCount_bytes []
  have hext := s.ext_length
  have hpad := s.pad_length
  rw [List.append_nil] at hv hx hp hc
  have hlen := s.length_bytes
  refine ⟨by omega, by rw [hv, s.header_version], fun h => ?_, fun h => ?_, s.body.length, ?_⟩
  · rw [hx] at h
    rw [if_pos h] at hext
    rw [hc, ← s.csrcs_length]
    omega
  · rw [hp] at h
    rw [if_pos h] at hpad
    rw [s.getD_last h]
    intro h0
    rw [h0] at hpad
    exact hpad.1 (List.length_eq_zero_iff.1 hpad.2)
  · rw [s.extensionSize_bytes, s.paddingSize_bytes, hc, ← s.csrcs_length]
    omega

end

section
variable (d : List UInt8) {i m n : Nat}

/-- A first part has the first byte. -/
theorem getD_zero_take (h : 0 < n) : (d.take n).getD 0 0 = d.getD 0 0 := by
  rw [List.getD_eq_getElem?_getD, List.getD_eq_getElem?_getD, List.getElem?_take_of_lt h]

/-- A number in a slice is the number in the buffer. -/
theorem get16_slice (h : n + 2 ≤ m) : get16 ((d.drop i).take m) n = get16 d (i + n) := by
  rw [get16, get16, List.drop_take, List.take_take, List.drop_drop, Nat.min_eq_left (by omega)]

/-- A last part has the last byte. -/
theorem getD_last_drop (h : n < d.length) :
    (d.drop n).getD ((d.drop n).length - 1) 0 = d.getD (d.length - 1) 0 := by
  rw [List.getD_eq_getElem?_getD, List.getD_eq_getElem?_getD, List.getElem?_drop, List.length_drop]
  congr 2
  omega

end

/-- Bytes that fit are those of sections. -/
theorem Fits.sections {d : List UInt8} (h : Fits d) : ∃ s : Sections, s.bytes = d := by
  obtain ⟨hlen, hver, hext, hpad, payload, hsize⟩ := h
  have h0 : (d.take headerSize).getD 0 0 = d.getD 0 0 := getD_zero_take d (by decide)
  have hc : csrcCount (d.take headerSize) = csrcCount d := by rw [csrcCount, csrcCount, h0]
  have hx : extension (d.take headerSize) = extension d := by rw [extension, extension, h0]
  have hp : padding (d.take headerSize) = padding d := by rw [padding, padding, h0]
  let r := d.drop (headerSize + csrcCount d * 4)
  refine ⟨{
    header := d.take headerSize
    csrcs := (d.drop headerSize).take (csrcCount d * 4)
    ext := r.take (extensionSize d)
    body := (r.drop (extensionSize d)).take payload
    pad := (r.drop (extensionSize d)).drop payload
    header_length := by rw [List.length_take]; omega
    header_version := by rw [version, h0]; exact hver
    csrcs_length := by rw [hc, List.length_take, List.length_drop]; omega
    ext_length := ?_
    pad_length := ?_ }, ?_⟩
  · rw [hx]
    split
    case isTrue hx' =>
      have hs : extensionSize d = 4 + get16 d (headerSize + csrcCount d * 4 + 2) * 4 := if_pos hx'
      have hl : (r.take (extensionSize d)).length = extensionSize d := by
        rw [List.length_take, List.length_drop]
        omega
      exact ⟨by omega, by rw [hl, hs, get16_slice d (by omega)]⟩
    case isFalse hx' =>
      have hs : extensionSize d = 0 := if_neg hx'
      rw [hs, List.take_zero]
  · rw [hp]
    have hdrop : (r.drop (extensionSize d)).drop payload =
        d.drop (headerSize + csrcCount d * 4 + extensionSize d + payload) := by
      simp only [r, List.drop_drop, Nat.add_assoc]
    rw [hdrop]
    split
    case isTrue hp' =>
      have hs : paddingSize d = (d.getD (d.length - 1) 0).toNat := if_pos hp'
      have hpos : 0 < paddingSize d := by
        rw [hs]
        exact Nat.pos_of_ne_zero fun he => hpad hp' (UInt8.toNat_inj.1 he)
      rw [getD_last_drop d (by omega), ← hs, List.length_drop]
      exact ⟨fun he => by simp at he; omega, by omega⟩
    case isFalse hp' =>
      have hs : paddingSize d = 0 := if_neg hp'
      exact List.drop_eq_nil_of_le (by omega)
  · simp only [Sections.bytes, List.take_append_drop, r, ← List.drop_drop]

/-- **Parse.** The bytes of sections are accepted, and the packet has the places of the sections. -/
theorem parse_sections (behind : UInt8) (s : Sections) :
    ∃ p, parse behind s.bytes = .ok (some p) ∧ p.buf = s.bytes ∧ p.Shows s := by
  obtain ⟨hlen, hver, hext, hpad, -⟩ := s.fits
  have hc := s.csrcCount_bytes []
  have hxs := s.extension_bytes []
  rw [List.append_nil] at hc hxs
  have hsize := s.length_bytes
  have hx : checkExtension s.bytes (headerSize + csrcCount s.bytes * 4) =
      some (if extension s.bytes then some (headerSize + csrcCount s.bytes * 4) else none,
        if extension s.bytes then get16 s.bytes (headerSize + csrcCount s.bytes * 4 + 2) * 4 else 0,
        headerSize + csrcCount s.bytes * 4 + s.ext.length) := by
    refine checkExtension_eq_some.2 ⟨?_, rfl, rfl, fun _ => ?_⟩
    · rw [← s.extensionSize_bytes, extensionSize]
    · rw [hc, ← s.csrcs_length]
      omega
  have hp : checkPadding s.bytes (s.bytes.length -
      (headerSize + csrcCount s.bytes * 4 + s.ext.length)) =
      some (s.body.length, if padding s.bytes then s.bytes.getD (s.bytes.length - 1) 0 else 0) := by
    refine checkPadding_eq_some.2 ⟨rfl, ?_, fun h => ?_⟩
    · rw [toNat_padding, s.paddingSize_bytes, hc, ← s.csrcs_length]
      omega
    · rw [if_pos h]
      exact hpad h
  have hsum : (if (if extension s.bytes then some (headerSize + csrcCount s.bytes * 4)
      else none).isSome then 4 + (if extension s.bytes then
        get16 s.bytes (headerSize + csrcCount s.bytes * 4 + 2) * 4 else 0) else 0) = s.ext.length := by
    rw [← s.extensionSize_bytes, extensionSize]
    cases extension s.bytes <;> rfl
  let p : Packet :=
    { buf := s.bytes, csrcList := if csrcCount s.bytes ≠ 0 then some headerSize else none
      extensionHeader := if extension s.bytes then some (headerSize + csrcCount s.bytes * 4) else none
      payload := headerSize + csrcCount s.bytes * 4 + s.ext.length, payloadLength := s.body.length
      payloadPadding := if padding s.bytes then s.bytes.getD (s.bytes.length - 1) 0 else 0
      size := s.bytes.length }
  obtain ⟨one, two, hmaps⟩ := p.parseExtensions_ok behind
  refine ⟨{ p with oneByteExtensions := one, twoBytesExtensions := two }, ?_, rfl, ?_⟩
  · rw [parse]
    simp only [(isRtp_iff _).2 ⟨hlen, hver⟩, hx, hp, Bool.not_true, Bool.false_eq_true, if_false]
    rw [if_neg (by rw [hc, ← s.csrcs_length]; omega), ensure_true (by rw [hc, ← s.csrcs_length]; omega),
      hsum, ensure_true (by rw [toNat_padding, s.paddingSize_bytes, hc, ← s.csrcs_length]; omega),
      hmaps]
    rfl
  · exact {
      buf := ⟨[], (List.append_nil _).symm⟩
      csrcList := by rw [← hc]
      extensionHeader := by rw [← hxs, s.csrcs_length, ← hc]
      payload := by rw [s.csrcs_length, ← hc]
      payloadLength := rfl
      payloadPadding := by rw [toNat_padding, s.paddingSize_bytes]
      size := rfl }

/-! ## What an object shows -/

section
variable {p : Packet} {s : Sections}

/-- The buffer of the packet has the number of the CSRCs. -/
theorem Packet.Shows.csrcCount (h : p.Shows s) : csrcCount p.buf = csrcCount s.header := by
  obtain ⟨tail, htail⟩ := h.buf
  rw [htail, s.csrcCount_bytes]

/-- The size of the header extension, with its header. -/
theorem Packet.Shows.extensionSize (h : p.Shows s) :
    (if p.extensionHeader.isSome then 4 + p.getExtensionHeaderLength else 0) = s.ext.length := by
  obtain ⟨tail, htail⟩ := h.buf
  have hlen := s.ext_length
  rw [getExtensionHeaderLength, h.extensionHeader]
  cases hx : extension s.header with
  | false => rw [hx] at hlen; simp at hlen; simp [hlen]
  | true =>
      rw [hx, if_pos rfl] at hlen
      simp only [if_true, Option.isSome_some]
      rw [htail, s.get16_ext tail hx, ← hlen.2]

/-- The pointer to the CSRC list is there if the list is not empty. -/
theorem Packet.Shows.csrcSize (h : p.Shows s) :
    (if p.csrcList.isSome then Rtp.csrcCount p.buf * 4 else 0) = s.csrcs.length := by
  rw [h.csrcCount, h.csrcList, s.csrcs_length]
  by_cases hc : Rtp.csrcCount s.header = 0
  · simp [hc]
  · simp [hc]

/-- An object that shows sections has their content. -/
theorem Packet.Shows.content (h : p.Shows s) :
    p.content = ⟨s.header, s.csrcs, s.ext, s.body, s.pad.length⟩ := by
  obtain ⟨tail, htail⟩ := h.buf
  have hcsrcs := s.csrcs_length
  have hsize := h.extensionSize
  have hext := s.ext_length
  simp only [Packet.content, Content.mk.injEq]
  refine ⟨by rw [htail, s.take_header], ?_, ?_, ?_, h.payloadPadding⟩
  · rw [h.csrcCount, h.csrcList]
    by_cases hc : Rtp.csrcCount s.header = 0
    · rw [hc] at hcsrcs
      rw [if_neg (not_not.2 hc), List.length_eq_zero_iff.1 hcsrcs]
    · rw [if_pos hc, htail]
      exact s.slice_csrcs tail
  · rw [h.extensionHeader] at hsize ⊢
    cases hx : extension s.header with
    | false => rw [hx] at hext; simp at hext; simp [hext]
    | true =>
        rw [hx] at hsize
        simp only [if_true, Option.isSome_some] at hsize ⊢
        rw [hsize, htail]
        exact s.slice_ext tail
  · rw [h.payload, h.payloadLength, htail]
    exact s.slice_body tail

/-- Its ranges lie in the bytes of the sections. -/
theorem Packet.Shows.inBounds (h : p.Shows s) : p.InBounds s.bytes.length := by
  have hsize := h.extensionSize
  have hlen := s.length_bytes
  refine ⟨fun csrcList hc => ?_, fun ext hx => ?_, ?_, Nat.le_of_eq h.size⟩
  · rw [h.csrcList] at hc
    split at hc
    · rw [h.csrcCount, ← s.csrcs_length]
      cases hc
      omega
    · cases hc
  · rw [hx] at hsize
    simp only [Option.isSome_some, if_true] at hsize
    rw [h.extensionHeader] at hx
    split at hx
    · cases hx
      omega
    · cases hx
  · rw [h.payload, h.payloadLength, h.payloadPadding]
    omega

end

/-! ## Serialize and Clone -/

/-- The same sections with other padding of the same length, whose last byte is the same. -/
def Sections.withPad (s : Sections) (pad : List UInt8) (hlen : pad.length = s.pad.length)
    (hlast : s.pad ≠ [] → pad.getD (pad.length - 1) 0 = s.pad.getD (s.pad.length - 1) 0) :
    Sections :=
  { s with
    pad
    pad_length := by
      have h := s.pad_length
      split at h
      case isTrue hp => exact (if_pos hp).mpr ⟨by grind, by rw [hlast h.1, hlen]; exact h.2⟩
      case isFalse hp => exact (if_neg hp).mpr (by grind) }

/-- The padding has the size that its last byte says. -/
theorem Sections.getD_pad (s : Sections) (h : s.pad ≠ []) :
    (s.pad.getD (s.pad.length - 1) 0).toNat = s.pad.length := by
  have hpad := s.pad_length
  split at hpad
  · exact hpad.2.symm
  · exact absurd hpad h

/-- What is in front of the padding stays, and the padding ends with its size. -/
theorem writePadding_ok {buf front : List UInt8} {ptr : Nat} (payloadPadding : UInt8)
    (hfront : buf.take ptr = front) (hlen : ptr + payloadPadding.toNat ≤ buf.length) :
    ∃ buf' pad, writePadding buf ptr payloadPadding = .ok buf' ∧
      buf'.take (ptr + payloadPadding.toNat) = front ++ pad ∧ pad.length = payloadPadding.toNat ∧
      (pad ≠ [] → pad.getD (pad.length - 1) 0 = payloadPadding) := by
  by_cases h0 : payloadPadding = 0
  · exact ⟨buf, [], by rw [writePadding, if_neg (not_not.2 h0)], by rw [h0]; simpa using hfront,
      by rw [h0]; rfl, fun h => absurd rfl h⟩
  have hpos : 0 < payloadPadding.toNat :=
    Nat.pos_of_ne_zero fun he => h0 (UInt8.toNat_inj.1 he)
  have hpre : buf.take (ptr + payloadPadding.toNat - 1) =
      front ++ (buf.drop ptr).take (payloadPadding.toNat - 1) := by
    rw [Nat.add_sub_assoc hpos, List.take_add, hfront]
  obtain ⟨buf', hw, htake, -⟩ := write_behind [payloadPadding] hpre (by simp; omega)
  refine ⟨buf', (buf.drop ptr).take (payloadPadding.toNat - 1) ++ [payloadPadding],
    by rw [writePadding, if_pos h0, hw], ?_, ?_, fun _ => ?_⟩
  · rw [List.length_singleton, Nat.sub_add_cancel (by omega), List.append_assoc] at htake
    exact htake
  · simp only [List.length_append, List.length_take, List.length_drop, List.length_singleton]
    omega
  · simp

section
variable {p : Packet} {s : Sections}

/-- The last byte of the padding is the object's `payloadPadding`. -/
theorem Packet.Shows.getD_pad (h : p.Shows s) (hne : s.pad ≠ []) :
    s.pad.getD (s.pad.length - 1) 0 = p.payloadPadding :=
  UInt8.toNat_inj.1 ((s.getD_pad hne).trans h.payloadPadding.symm)

/-- A packet without the pointer has no CSRCs. -/
theorem Packet.Shows.csrcs_nil (h : p.Shows s) (hnone : p.csrcList = none) : s.csrcs = [] := by
  have hsize := h.csrcSize
  rw [hnone] at hsize
  exact List.length_eq_zero_iff.1 hsize.symm

/-- A packet without an extension header has no extension. -/
theorem Packet.Shows.ext_nil (h : p.Shows s) (hnone : p.extensionHeader = none) : s.ext = [] := by
  have hsize := h.extensionSize
  rw [hnone] at hsize
  exact List.length_eq_zero_iff.1 hsize.symm

/-- The pointer to the CSRC list leads to it. -/
theorem Packet.Shows.read_csrcs (h : p.Shows s) {i : Nat} (hi : p.csrcList = some i) :
    read p.buf i s.csrcs.length = .ok s.csrcs := by
  obtain ⟨tail, htail⟩ := h.buf
  have hlen := s.length_bytes
  rw [h.csrcList] at hi
  split at hi
  · cases hi
    rw [read_ok (by rw [htail, List.length_append]; omega), htail, s.csrcs_length, s.slice_csrcs]
  · cases hi

/-- The pointer to the extension header leads to it. -/
theorem Packet.Shows.read_ext (h : p.Shows s) {i : Nat} (hi : p.extensionHeader = some i) :
    read p.buf i s.ext.length = .ok s.ext := by
  obtain ⟨tail, htail⟩ := h.buf
  have hlen := s.length_bytes
  rw [h.extensionHeader] at hi
  split at hi
  · cases hi
    rw [read_ok (by rw [htail, List.length_append]; omega), htail, s.slice_ext]
  · cases hi

/-- An object with the same places, over a buffer with the same sections but for the padding before its
last byte. -/
theorem Packet.Shows.withPad {q : Packet} {pad : List UInt8} (h : p.Shows s)
    (hcsrc : q.csrcList = p.csrcList) (hext : q.extensionHeader = p.extensionHeader)
    (hpayload : q.payload = p.payload) (hlength : q.payloadLength = p.payloadLength)
    (hpadding : q.payloadPadding = p.payloadPadding) (hsize : q.size = p.size)
    (hbuf : q.buf.take p.size = s.header ++ s.csrcs ++ s.ext ++ s.body ++ pad)
    (hpad : pad.length = p.payloadPadding.toNat)
    (hlast : pad ≠ [] → pad.getD (pad.length - 1) 0 = p.payloadPadding) :
    ∃ pad hlen hlast, q.Shows (s.withPad pad hlen hlast) := by
  have hlen : pad.length = s.pad.length := hpad.trans h.payloadPadding
  refine ⟨pad, hlen, fun hne => ?_, ?_, hcsrc.trans h.csrcList, hext.trans h.extensionHeader,
    hpayload.trans h.payload, hlength.trans h.payloadLength, ?_, ?_⟩
  · rw [h.getD_pad hne]
    refine hlast fun hnil => hne (List.length_eq_zero_iff.1 ?_)
    rw [← hlen, hnil]
    rfl
  · refine ⟨q.buf.drop p.size, (List.take_append_drop p.size q.buf).symm.trans ?_⟩
    rw [hbuf]
    simp only [Sections.bytes, Sections.withPad, List.append_assoc]
  · rw [hpadding, ← hpad]
    rfl
  · rw [hsize, h.size, s.length_bytes, Sections.length_bytes]
    exact congrArg (_ + ·) hlen.symm

end

/-- An optional section is copied behind what is written already. -/
theorem copySection_ok {p : Packet} (place : Option Nat) {buf front : List UInt8} (bs : List UInt8)
    {ptr : Nat}
    (hnone : place = none → bs = []) (hsome : ∀ i, place = some i → read p.buf i bs.length = .ok bs)
    (hfront : buf.take ptr = front) (hlen : ptr + bs.length ≤ buf.length) :
    ∃ buf', copySection p place bs.length buf ptr = .ok buf' ∧
      buf'.take (ptr + bs.length) = front ++ bs ∧ buf'.length = buf.length := by
  cases place with
  | none => exact ⟨buf, rfl, by rw [hnone rfl]; simpa using hfront, rfl⟩
  | some i =>
      obtain ⟨buf', hw, h⟩ := write_behind bs hfront hlen
      exact ⟨buf', by simp only [copySection, hsome i rfl, Checked.ok_bind, hw], h⟩

/-- What is behind a section that is copied stays. -/
theorem drop_copySection {p : Packet} {place : Option Nat} {size ptr k : Nat} {buf buf' : List UInt8}
    (h : copySection p place size buf ptr = .ok buf') (hk : ptr + size ≤ k) : buf'.drop k = buf.drop k := by
  unfold copySection at h
  split at h
  case h_1 =>
    cases h
    rfl
  case h_2 i =>
    obtain ⟨bs, hread, hwrite⟩ := Checked.bind_eq_ok.1 h
    obtain ⟨hle, rfl⟩ := read_eq_ok.1 hread
    refine drop_write hwrite ?_
    rw [List.length_take, List.length_drop]
    omega

/-- What is behind the padding stays. -/
theorem drop_writePadding {payloadPadding : UInt8} {ptr k : Nat} {buf buf' : List UInt8}
    (h : writePadding buf ptr payloadPadding = .ok buf') (hk : ptr + payloadPadding.toNat ≤ k) :
    buf'.drop k = buf.drop k := by
  unfold writePadding at h
  split at h
  case isTrue hne =>
    have hpos : 0 < payloadPadding.toNat :=
      Nat.pos_of_ne_zero fun he => hne (UInt8.toNat_inj.1 he)
    refine drop_write h ?_
    rw [List.length_singleton]
    omega
  case isFalse =>
    cases h
    rfl

/-- **Serialize.** Into a buffer that is large enough, `serialize` writes the sections of the object,
up to the padding before its last byte, and the object then shows them. -/
theorem Packet.Shows.serialize {p : Packet} {s : Sections} (h : p.Shows s) (behind : UInt8)
    {buffer : List UInt8} (hbuffer : p.size ≤ buffer.length) :
    ∃ q, p.serialize behind buffer = .ok q ∧ q.size = p.size ∧
      q.buf.drop p.size = buffer.drop p.size ∧
      ∃ pad hlen hlast, q.Shows (s.withPad pad hlen hlast) := by
  obtain ⟨tail, htail⟩ := h.buf
  have hlen := s.length_bytes
  have hsize := h.size
  have htotal : p.buf.length = s.bytes.length + tail.length := by rw [htail, List.length_append]
  have hheader : read p.buf 0 headerSize = .ok s.header := by
    rw [read_ok (by omega), List.drop_zero, htail, s.take_header]
  have hbody : read p.buf p.payload p.payloadLength = .ok s.body := by
    rw [read_ok (by rw [h.payload, h.payloadLength]; omega), htail, h.payload, h.payloadLength,
      s.slice_body]
  obtain ⟨buf₁, hw₁, htake₁, hlen₁⟩ := write_behind s.header (d := buffer) (i := 0) (a := [])
    rfl (by rw [s.header_length]; omega)
  rw [s.header_length, Nat.zero_add, List.nil_append] at htake₁
  obtain ⟨buf₂, hw₂, htake₂, hlen₂⟩ := copySection_ok (p := p) p.csrcList s.csrcs
    h.csrcs_nil (fun _ => h.read_csrcs) htake₁ (by omega)
  obtain ⟨buf₃, hw₃, htake₃, hlen₃⟩ := copySection_ok (p := p) p.extensionHeader
    s.ext h.ext_nil (fun _ => h.read_ext) htake₂ (by omega)
  have hsum : headerSize + s.csrcs.length + s.ext.length + p.payloadLength +
      p.payloadPadding.toNat = s.bytes.length := by
    rw [h.payloadLength, h.payloadPadding]
    omega
  let r : Packet :=
    { p with
      buf := buf₃, csrcList := p.csrcList.map fun _ => headerSize
      extensionHeader := p.extensionHeader.map fun _ => headerSize + s.csrcs.length
      size := s.bytes.length }
  obtain ⟨one, two, hmaps⟩ := r.parseExtensions_ok behind
  obtain ⟨buf₄, hw₄, htake₄, hlen₄⟩ := write_behind s.body htake₃ (by omega)
  obtain ⟨buf₅, pad, hw₅, htake₅, hpad, hlast⟩ := writePadding_ok p.payloadPadding
    htake₄ (by rw [h.payloadPadding]; omega)
  rw [← h.payloadLength] at hw₅ htake₅
  refine ⟨{ r with buf := buf₅, oneByteExtensions := one, twoBytesExtensions := two
                   payload := headerSize + s.csrcs.length + s.ext.length }, ?_, hsize.symm, ?_, ?_⟩
  · simp only [Packet.serialize, h.csrcSize, h.extensionSize, hsum]
    exact Checked.bind_eq_ok.2 ⟨_, hheader, Checked.bind_eq_ok.2 ⟨_, hw₁,
      Checked.bind_eq_ok.2 ⟨_, hw₂, Checked.bind_eq_ok.2 ⟨_, hw₃, Checked.bind_eq_ok.2 ⟨_, hmaps,
      Checked.bind_eq_ok.2 ⟨_, hbody, Checked.bind_eq_ok.2 ⟨_, hw₄, Checked.bind_eq_ok.2 ⟨_, hw₅,
      Checked.bind_eq_ok.2 ⟨(), ensure_true trivial _, rfl⟩⟩⟩⟩⟩⟩⟩⟩⟩
  · calc buf₅.drop p.size
      _ = buf₄.drop p.size := drop_writePadding hw₅ (by omega)
      _ = buf₃.drop p.size := drop_write hw₄ (by omega)
      _ = buf₂.drop p.size := drop_copySection hw₃ (by omega)
      _ = buf₁.drop p.size := drop_copySection hw₂ (by omega)
      _ = buffer.drop p.size := drop_write hw₁ (by rw [s.header_length]; omega)
  · refine h.withPad ?_ ?_ h.payload.symm rfl rfl h.size.symm ?_ hpad hlast
    · change p.csrcList.map _ = p.csrcList
      rw [h.csrcList]
      split <;> rfl
    · change p.extensionHeader.map _ = p.extensionHeader
      rw [h.extensionHeader]
      split <;> rfl
    · rw [h.size, ← hsum]
      exact htake₅

/-- Padding that has its size already is written as it is. -/
theorem writePadding_same {buf : List UInt8} {ptr : Nat} (payloadPadding : UInt8)
    (hlen : ptr + payloadPadding.toNat ≤ buf.length)
    (hlast : payloadPadding ≠ 0 → buf.getD (ptr + payloadPadding.toNat - 1) 0 = payloadPadding) :
    writePadding buf ptr payloadPadding = .ok buf := by
  unfold writePadding
  split
  case isFalse h0 => rfl
  case isTrue h0 =>
    have hpos : 0 < payloadPadding.toNat :=
      Nat.pos_of_ne_zero fun he => h0 (UInt8.toNat_inj.1 he)
    have hi : ptr + payloadPadding.toNat - 1 < buf.length := by omega
    have hget : payloadPadding = buf[ptr + payloadPadding.toNat - 1] := by
      conv => lhs; rw [← hlast h0]
      rw [List.getD_eq_getElem?_getD, List.getElem?_eq_getElem hi, Option.getD_some]
    rw [write, if_pos (by rw [List.length_singleton]; omega), List.length_singleton,
      List.append_assoc, List.singleton_append]
    conv => lhs; arg 1; arg 2; arg 1; rw [hget]
    rw [← List.drop_eq_getElem_cons hi, List.take_append_drop]

/-- The last byte of the padding says how long it is. -/
theorem Packet.Shows.getD_last {p : Packet} {s : Sections} (h : p.Shows s) (h0 : p.payloadPadding ≠ 0) :
    s.bytes.getD (s.bytes.length - 1) 0 = p.payloadPadding := by
  have hpad : padding s.header = true := by
    by_contra hp
    have hnil := s.pad_length
    rw [if_neg hp] at hnil
    exact h0 (UInt8.toNat_inj.1 (by rw [h.payloadPadding, hnil]; rfl))
  have hne : s.pad ≠ [] := by
    have hne := s.pad_length
    rw [if_pos hpad] at hne
    exact hne.1
  rw [s.getD_last hpad, h.getD_pad hne]

/-- **Clone.** Into a buffer that is large enough, `clone` writes the same bytes, and its object shows
the same sections. -/
theorem Packet.Shows.clone {p : Packet} {s : Sections} (h : p.Shows s) (behind : UInt8)
    {buffer : List UInt8} (hbuffer : p.size ≤ buffer.length) :
    ∃ q, p.clone behind buffer = .ok q ∧ q.buf = s.bytes ++ buffer.drop p.size ∧ q.Shows s := by
  obtain ⟨tail, htail⟩ := h.buf
  have hlen := s.length_bytes
  have hsize := h.size
  have hbytes : read p.buf 0 p.size = .ok s.bytes := by
    rw [read_ok (by rw [htail, List.length_append]; omega), htail, hsize, List.drop_zero,
      List.take_left]
  have hw₁ : write buffer 0 s.bytes = .ok (s.bytes ++ buffer.drop p.size) := by
    rw [write, if_pos (by omega), List.take_zero, List.nil_append, Nat.zero_add, hsize]
  generalize hbuf₁ : s.bytes ++ buffer.drop p.size = buf₁ at hw₁ ⊢
  have hcount : Rtp.csrcCount buf₁ = Rtp.csrcCount s.header := by
    rw [← hbuf₁, s.csrcCount_bytes]
  have hcsrc : (if p.csrcList.isSome then headerSize + Rtp.csrcCount buf₁ * 4 else headerSize) =
      headerSize + s.csrcs.length := by
    rw [hcount, ← h.csrcCount, ← h.csrcSize]
    split <;> rfl
  have hext : (if p.extensionHeader.isSome then
      headerSize + s.csrcs.length + 4 + p.getExtensionHeaderLength
      else headerSize + s.csrcs.length) = headerSize + s.csrcs.length + s.ext.length := by
    rw [← h.extensionSize]
    split <;> omega
  have hsum : headerSize + s.csrcs.length + s.ext.length + p.payloadLength +
      p.payloadPadding.toNat = p.size := by
    rw [h.payloadLength, h.payloadPadding]
    omega
  -- the last byte of the padding is there already
  have hw₂ : writePadding buf₁ (headerSize + s.csrcs.length + s.ext.length + p.payloadLength)
      p.payloadPadding = .ok buf₁ := by
    refine writePadding_same p.payloadPadding ?_ fun h0 => ?_
    · rw [hsum, hsize, ← hbuf₁, List.length_append]
      omega
    · rw [hsum, hsize, ← hbuf₁, ← h.getD_last h0, List.getD_eq_getElem?_getD,
        List.getD_eq_getElem?_getD, List.getElem?_append_left]
      rw [hlen, headerSize]
      omega
  let r : Packet :=
    { buf := buf₁, csrcList := if Rtp.csrcCount buf₁ ≠ 0 then some headerSize else none
      extensionHeader := p.extensionHeader.map fun _ => headerSize + s.csrcs.length
      payload := headerSize + s.csrcs.length + s.ext.length
      payloadLength := p.payloadLength, payloadPadding := p.payloadPadding, size := p.size }
  obtain ⟨one, two, hmaps⟩ := r.parseExtensions_ok behind
  refine ⟨{ r with oneByteExtensions := one, twoBytesExtensions := two
                   extensionMap := p.extensionMap }, ?_, rfl, ?_⟩
  · simp only [Packet.clone, hbytes, hw₁, Checked.ok_bind, hcsrc, hext]
    exact Checked.bind_eq_ok.2 ⟨_, hw₂, Checked.bind_eq_ok.2 ⟨(), ensure_true hsum _,
      Checked.bind_eq_ok.2 ⟨_, hmaps, rfl⟩⟩⟩
  · exact {
      buf := ⟨_, hbuf₁.symm⟩
      csrcList := by rw [← hcount]
      extensionHeader := by
        change p.extensionHeader.map _ = _
        rw [h.extensionHeader]
        split <;> rfl
      payload := rfl
      payloadLength := h.payloadLength
      payloadPadding := h.payloadPadding
      size := h.size }

/-- The packet was written to the front of a buffer: the bytes there parse, with the content of the
packet, and the rest of the buffer is as it was. -/
def Packet.Written (p : Packet) (behind : UInt8) (buffer after : List UInt8) : Prop :=
  ∃ written p', written.length = p.size ∧ after = written ++ buffer.drop p.size ∧
    parse behind written = .ok (some p') ∧ p'.content = p.content

/-- An object that shows the same sections, up to the padding, has them in its buffer. -/
theorem Packet.Shows.written {p q : Packet} {s : Sections} (h : p.Shows s) (behind : UInt8)
    {pad buffer : List UInt8} {hlen hlast} (hq : q.Shows (s.withPad pad hlen hlast))
    (hsize : q.size = p.size) (hdrop : q.buf.drop p.size = buffer.drop p.size) :
    p.Written behind buffer q.buf := by
  obtain ⟨tail, htail⟩ := hq.buf
  obtain ⟨p', hparse, -, hshows⟩ := parse_sections behind (s.withPad pad hlen hlast)
  have htake : q.buf.take p.size = (s.withPad pad hlen hlast).bytes := by
    rw [← hsize, hq.size, htail, List.take_left]
  refine ⟨q.buf.take p.size, p', ?_, ?_, ?_, ?_⟩
  · rw [htake, ← hq.size, hsize]
  · rw [← hdrop, List.take_append_drop]
  · rw [htake, hparse]
  · rw [hshows.content, h.content, ← hlen]
    rfl

/-- **The RTP codec.** `parse` returns for every buffer, so its assertions hold; it accepts exactly
the packets of version 2 whose parts fit; the ranges of an accepted packet lie in the buffer; and
`serialize` and `clone` return, for every buffer with room for the packet, and write bytes to its front
that parse to the same content. -/
theorem parse_serialize_clone (behind : UInt8) (d : List UInt8) :
    (∃ o, parse behind d = .ok o ∧ (o.isSome ↔ Fits d)) ∧
      ∀ p, parse behind d = .ok (some p) → p.buf = d ∧ p.InBounds d.length ∧
        ∀ (b c : UInt8) (buffer : List UInt8), p.size ≤ buffer.length →
          (∃ q, p.serialize b buffer = .ok q ∧ q.size = p.size ∧ p.Written c buffer q.buf) ∧
          ∃ q, p.clone b buffer = .ok q ∧ q.size = p.size ∧ p.Written c buffer q.buf := by
  refine ⟨?_, fun p hp => ?_⟩
  · by_cases hfits : Fits d
    · obtain ⟨s, rfl⟩ := hfits.sections
      obtain ⟨p, hp, -⟩ := parse_sections behind s
      exact ⟨some p, hp, fun _ => hfits, fun _ => rfl⟩
    · have hnone : parse behind d = .ok none := by
        by_contra h
        exact hfits (fits_of_parse behind h)
      exact ⟨none, hnone, fun h => (by cases h), fun h => absurd h hfits⟩
  · obtain ⟨s, rfl⟩ := (fits_of_parse behind (by rw [hp]; simp)).sections
    obtain ⟨p', hp', hbuf, h⟩ := parse_sections behind s
    obtain rfl : p' = p := by
      rw [hp] at hp'
      cases hp'
      rfl
    refine ⟨hbuf, h.inBounds, fun b c buffer hlen => ⟨?_, ?_⟩⟩
    · obtain ⟨q, hq, hsize, hdrop, pad, _, _, hshows⟩ := h.serialize b hlen
      exact ⟨q, hq, hsize, h.written c hshows hsize hdrop⟩
    · obtain ⟨q, hq, hwritten, hshows⟩ := h.clone b hlen
      have hsize : q.size = p'.size := hshows.size.trans h.size.symm
      have hdrop : q.buf.drop p'.size = buffer.drop p'.size := by
        rw [hwritten, h.size, List.drop_left]
      exact ⟨q, hq, hsize, @Packet.Shows.written p' q s h c s.pad buffer rfl (fun _ => rfl) hshows hsize
        hdrop⟩

/-- A packet with one CSRC, a header extension, one byte of payload and two of padding. -/
def samplePacket : List UInt8 :=
  [0xB1, 96, 0, 5, 0, 0, 0, 9, 0, 0, 0, 1] ++ [0, 0, 0, 2] ++ [0xBE, 0xDE, 0, 1, 0x10, 0xFF, 0, 0] ++
    [7, 9, 2]

/-- It is written to a buffer of 32 bytes that are 255, as itself but for the first byte of the padding,
which is not written. -/
theorem parse_serialize_clone_sample :
    Fits samplePacket ∧ ∃ p, parse 0 samplePacket = .ok (some p) ∧ p.size = 27 ∧
      ∃ q, p.serialize 0 (List.replicate 32 255) = .ok q ∧ q.size = p.size ∧
        p.Written 0 (List.replicate 32 255) q.buf := by
  have hfits : Fits samplePacket := ⟨by decide, by decide, by decide, by decide, 1, by decide⟩
  obtain ⟨⟨o, hparse, hiff⟩, hall⟩ := parse_serialize_clone 0 samplePacket
  obtain ⟨p, rfl⟩ := Option.isSome_iff_exists.1 (hiff.2 hfits)
  obtain ⟨-, ⟨-, -, -, hsize⟩, hwrite⟩ := hall p hparse
  have hroom : p.size ≤ 32 := Nat.le_trans hsize (by decide)
  have hlength : (parse 0 samplePacket).toOption.bind (·.map (·.size)) = some 27 := by decide +kernel
  rw [hparse] at hlength
  exact ⟨hfits, p, hparse, Option.some.inj hlength, (hwrite 0 0 (List.replicate 32 255) hroom).1⟩

end KoreWebsocket.Rtp
