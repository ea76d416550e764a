import KoreWebsocket.Rtp.Codec

/-!
# The elements of the header extension

`oneByteElements` and `twoByteElements` are the two forms of RFC 5285, read off the bytes of the header
extension: padding bytes may be anywhere, and a one-byte element with the id 15 ends the list.
`ParseExtensions` keeps the elements by id and `GetExtension` looks one up. In the one-byte form it skips
padding only behind an element, so padding at the start is an element with the id 0, and it goes on behind
an element with the id 15. In the two-byte form it takes the place of the length for that of the element, so
that it reads the length one byte behind the last one, and `GetExtension` looks the length up in the map of
the other form. So the elements are right just for the header extensions of `ExtensionsClean`
(`extensionsCorrect_iff`).
-/

namespace KoreWebsocket.Rtp

open Bytes

/-! ## The format -/

/-- An element: its id, the place of its value and its length. -/
structure HeaderElement where
  id : UInt8
  value : Nat
  len : UInt8

/-- The elements of the one-byte form in the bytes from a place on. -/
def oneByteElements (pos : Nat) : List UInt8 → List HeaderElement
  | [] => []
  | b :: rest =>
      if b = 0 then oneByteElements (pos + 1) rest
      else if rest.length < (b % 16 + 1).toNat then []
      else
        { id := b >>> 4, value := pos + 1, len := b % 16 + 1 } ::
          oneByteElements (pos + 1 + (b % 16 + 1).toNat) (rest.drop (b % 16 + 1).toNat)
  termination_by bytes => bytes.length
  decreasing_by all_goals simp only [List.length_drop, List.length_cons]; omega

/-- The elements of the two-byte form in the bytes from a place on. -/
def twoByteElements (pos : Nat) : List UInt8 → List HeaderElement
  | [] => []
  | [_] => []
  | id :: len :: rest =>
      if id = 0 then twoByteElements (pos + 1) (len :: rest)
      else if rest.length < len.toNat then []
      else { id, value := pos + 2, len } :: twoByteElements (pos + 2 + len.toNat) (rest.drop len.toNat)
  termination_by bytes => bytes.length
  decreasing_by all_goals simp only [List.length_drop, List.length_cons]; omega

/-- The value and the length of the element with an id, the last one if there are several. No element has
the id 0. -/
def lookupElement (elements : List HeaderElement) (id : UInt8) : Option (Nat × UInt8) :=
  if id = 0 then none
  else ((elements.filter (·.id = id)).getLast?).map fun element => (element.value, element.len)

namespace Packet

variable (p : Packet)

/-- The place of the header extension's value. -/
def extensionStart : Nat := p.extensionHeader.getD 0 + 4

/-- The value of the header extension. -/
def extensionBlock : List UInt8 := (p.buf.drop p.extensionStart).take p.getExtensionHeaderLength

/-- The elements of the header extension. The element with the id 15 ends those of the one-byte form. -/
def elements : List HeaderElement :=
  if p.getExtensionHeaderId = 0xBEDE then
    (oneByteElements p.extensionStart p.extensionBlock).takeWhile (·.id ≠ 15)
  else if p.getExtensionHeaderId / 16 = 0x100 then twoByteElements p.extensionStart p.extensionBlock
  else []

/-! ## `AddExtensionMapping` and `GetExtension` -/

/-- `RtpPacket::AddExtensionMapping`. -/
def addExtensionMapping (uri : Uri) (id : UInt8) : Packet :=
  { p with extensionMap := Function.update p.extensionMap uri (some id) }

/-- What `std::map::at` throws. -/
inductive OutOfRange
  | at

/-- The rest of `RtpPacket::GetExtension`, for the id of the URI: the place of the value, and its length. -/
def getExtensionById (id : UInt8) : Except OutOfRange (Option (Nat × UInt8)) :=
  if p.getExtensionHeaderId = 0xBEDE then
    match p.oneByteExtensions id with
    | none => .ok none
    | some ptr => .ok (some (ptr + 1, p.buf.getD ptr 0 % 16 + 1))
  else if p.getExtensionHeaderId / 16 = 0x100 then
    match p.twoBytesExtensions id with
    | none => .ok none
    | some ptr =>
        match p.oneByteExtensions id with
        | none => .error .at
        | some oneByte => .ok (some (ptr + 2, p.buf.getD oneByte 0 % 16))
  else .ok none

/-- `RtpPacket::GetExtension`. -/
def getExtension (uri : Uri) : Except OutOfRange (Option (Nat × UInt8)) :=
  match p.extensionMap uri with
  | none => .ok none
  | some id => p.getExtensionById id

/-! ## What `ParseExtensions` reads -/

/-- The places that the loop over the padding reads. -/
def skipPaddingReads (read : Nat → UInt8) : Nat → Nat → List Nat
  | 0, _ => []
  | n + 1, ptr => ptr :: if read ptr = 0 then skipPaddingReads read n (ptr + 1) else []

/-- The places that the loop over the elements reads, if those of an element are `places`. -/
def elementsReads (read : Nat → UInt8) (element : Element) (places : Nat → List Nat) (extensionEnd : Nat) :
    Nat → Nat → List Nat
  | 0, _ => []
  | fuel + 1, ptr =>
      if extensionEnd ≤ ptr then []
      else
        let (_, _, next) := element ptr
        if extensionEnd < next then places ptr
        else
          places ptr ++ skipPaddingReads read (extensionEnd - next) next ++
            elementsReads read element places extensionEnd fuel
              (skipPadding read (extensionEnd - next) next)

/-- The places that `RtpPacket::ParseExtensions` reads. -/
def parseExtensionsReads (behind : UInt8) : List Nat :=
  let read := fun i => p.buf.getD i behind
  let extensionEnd := p.extensionStart + p.getExtensionHeaderLength
  let fuel := extensionEnd - p.extensionStart + 1
  if p.getExtensionHeaderId = 0xBEDE then
    elementsReads read (oneByteElement read) (fun ptr => [ptr]) extensionEnd fuel p.extensionStart
  else if p.getExtensionHeaderId / 16 = 0x100 then
    elementsReads read (twoBytesElement read) (fun ptr => [ptr, ptr + 1]) extensionEnd fuel p.extensionStart
  else []

/-- The header extension is read inside its value, and after any mappings are added `GetExtension` returns
the elements. -/
structure ExtensionsCorrect (behind : UInt8) : Prop where
  reads : ∀ place ∈ p.parseExtensionsReads behind,
    p.extensionStart ≤ place ∧ place < p.extensionStart + p.getExtensionHeaderLength
  get : ∀ (mappings : List (Uri × UInt8)) (uri : Uri),
    let q := mappings.foldl (fun p (uri, id) => p.addExtensionMapping uri id) p
    q.getExtension uri = .ok ((q.extensionMap uri).bind (lookupElement q.elements))

/-- The one-byte form starts with an element, and none has the id 0 or 15. The two-byte form has no element:
the first does not fit, nor does the one behind a padding byte at the start. -/
def ExtensionsClean : Prop :=
  if p.getExtensionHeaderId = 0xBEDE then
    p.extensionBlock.head? ≠ some 0 ∧
      ∀ element ∈ oneByteElements p.extensionStart p.extensionBlock, element.id ≠ 0 ∧ element.id ≠ 15
  else if p.getExtensionHeaderId / 16 = 0x100 then
    p.extensionBlock = [] ∨ p.extensionBlock.length ≤ (p.extensionBlock.getD 1 0).toNat ∧
      (p.extensionBlock.head? = some 0 →
        p.extensionBlock.length < (p.extensionBlock.getD 2 0).toNat + 3)
  else True

end Packet

/-! ## The one-byte form -/

section
variable {read : Nat → UInt8} {ptr : Nat} {bytes : List UInt8}

/-- The bytes that are read from a place on. -/
def ReadsFrom (read : Nat → UInt8) (ptr : Nat) (bytes : List UInt8) : Prop :=
  ∀ i (h : i < bytes.length), read (ptr + i) = bytes[i]

/-- Reading goes on behind some bytes. -/
theorem ReadsFrom.drop (h : ReadsFrom read ptr bytes) (n : Nat) :
    ReadsFrom read (ptr + n) (bytes.drop n) := by
  intro i hi
  rw [List.getElem_drop, Nat.add_assoc]
  exact h (n + i) (by rw [List.length_drop] at hi; omega)

/-- What is read first is the first byte. -/
theorem ReadsFrom.head {b : UInt8} (h : ReadsFrom read ptr (b :: bytes)) : read ptr = b :=
  h 0 (Nat.zero_lt_succ _)

/-- No zero is in front when the zeros are skipped. -/
theorem head?_dropWhile_ne (bytes : List UInt8) : (bytes.dropWhile (· = 0)).head? ≠ some 0 := by
  intro hhead
  have hnot := List.head?_dropWhile_not (fun b : UInt8 => decide (b = 0)) bytes
  rw [hhead] at hnot
  exact absurd hnot (by decide)

/-- Reading goes on behind the zeros. -/
theorem ReadsFrom.dropWhile (h : ReadsFrom read ptr bytes) :
    ReadsFrom read (ptr + (bytes.length - (bytes.dropWhile (· = 0)).length)) (bytes.dropWhile (· = 0)) := by
  have hdrop := h.drop (bytes.length - (bytes.dropWhile (· = 0)).length)
  rw [← List.suffix_iff_eq_drop.1 (List.dropWhile_suffix _)] at hdrop
  exact hdrop

/-- The padding is skipped. -/
theorem skipPadding_eq (h : ReadsFrom read ptr bytes) :
    skipPadding read bytes.length ptr = ptr + (bytes.length - (bytes.dropWhile (· = 0)).length) := by
  induction bytes generalizing ptr with
  | nil => rfl
  | cons b bytes ih =>
      rw [List.length_cons, skipPadding, h.head, List.dropWhile_cons]
      have hle := (List.dropWhile_suffix (l := bytes) (· = (0 : UInt8))).length_le
      by_cases hb : b = 0
      · rw [if_pos hb, if_pos (decide_eq_true hb), ih (h.drop 1)]
        omega
      · rw [if_neg hb, if_neg (by rw [decide_eq_false hb]; exact Bool.false_ne_true)]
        simp

/-- Padding at the start is no element. -/
theorem oneByteElements_dropWhile (pos : Nat) (bytes : List UInt8) :
    oneByteElements pos bytes =
      oneByteElements (pos + (bytes.length - (bytes.dropWhile (· = 0)).length)) (bytes.dropWhile (· = 0)) := by
  induction bytes generalizing pos with
  | nil => rfl
  | cons b bytes ih =>
      have hle := (List.dropWhile_suffix (l := bytes) (· = (0 : UInt8))).length_le
      rw [List.dropWhile_cons]
      by_cases hb : b = 0
      · rw [if_pos (decide_eq_true hb), oneByteElements, if_pos hb, ih (pos + 1)]
        congr 1
        rw [List.length_cons]
        omega
      · rw [if_neg (by rw [decide_eq_false hb]; exact Bool.false_ne_true), Nat.sub_self, Nat.add_zero]

/-- The places that `ParseExtensions` keeps for the elements of the one-byte form. -/
def keep (map : UInt8 → Option Nat) (element : HeaderElement) : UInt8 → Option Nat :=
  Function.update map element.id (some (element.value - 1))

/-- **The loop over the elements of the one-byte form**, from an element on. -/
theorem elements_oneByte (h : ReadsFrom read ptr bytes) (hhead : bytes.head? ≠ some 0) {fuel : Nat}
    (hfuel : bytes.length < fuel) (map : UInt8 → Option Nat) :
    elements read (oneByteElement read) (ptr + bytes.length) fuel ptr map =
      .ok ((oneByteElements ptr bytes).foldl keep map) := by
  induction fuel generalizing ptr bytes map with
  | zero => exact absurd hfuel (Nat.not_lt_zero _)
  | succ fuel ih =>
      cases bytes with
      | nil =>
          rw [elements, List.length_nil, Nat.add_zero, if_pos (Nat.le_refl _), oneByteElements]
          rfl
      | cons b rest =>
          have hb : b ≠ 0 := fun hzero => hhead (congrArg some hzero)
          have hlen : (b % 16 + 1).toNat = b.toNat % 16 + 1 := by
            rw [UInt8.toNat_add, UInt8.toNat_mod]
            change (b.toNat % 16 + 1) % 256 = _
            omega
          rw [elements, oneByteElements, if_neg hb, hlen, if_neg (by rw [List.length_cons]; omega)]
          simp only [oneByteElement, h.head]
          by_cases hshort : rest.length < b.toNat % 16 + 1
          · rw [if_pos hshort, if_pos (by rw [List.length_cons]; omega)]
            rfl
          · have hrest : ReadsFrom read (ptr + 1 + (b.toNat % 16 + 1)) (rest.drop (b.toNat % 16 + 1)) :=
              (h.drop 1).drop (b.toNat % 16 + 1)
            have hnext : ptr + 1 + (b.toNat % 16 + 1) + (rest.drop (b.toNat % 16 + 1)).length =
                ptr + (b :: rest).length := by
              rw [List.length_drop, List.length_cons]
              omega
            have hskipped := hrest.dropWhile
            have hsuffix := (List.dropWhile_suffix (l := rest.drop (b.toNat % 16 + 1)) (· = (0 : UInt8))).length_le
            rw [if_neg hshort, if_neg (by omega), ← hnext, Nat.add_sub_cancel_left, skipPadding_eq hrest,
              List.foldl_cons, oneByteElements_dropWhile]
            rw [List.length_cons] at hfuel
            rw [List.length_drop] at hsuffix
            have hend : ptr + 1 + (b.toNat % 16 + 1) + (rest.drop (b.toNat % 16 + 1)).length =
                ptr + 1 + (b.toNat % 16 + 1) + ((rest.drop (b.toNat % 16 + 1)).length -
                  ((rest.drop (b.toNat % 16 + 1)).dropWhile (· = 0)).length) +
                ((rest.drop (b.toNat % 16 + 1)).dropWhile (· = 0)).length := by
              rw [List.length_drop]
              omega
            rw [hend]
            exact ih hskipped (head?_dropWhile_ne _) (by omega) _

/-- The map has the last element with an id. -/
theorem foldl_keep (elements : List HeaderElement) (map : UInt8 → Option Nat) (id : UInt8) :
    elements.foldl keep map id =
      (((elements.filter (·.id = id)).getLast?).map (·.value - 1)).or (map id) := by
  induction elements generalizing map with
  | nil => rfl
  | cons element elements ih =>
      rw [List.foldl_cons, ih, List.filter_cons]
      by_cases hid : element.id = id
      · rw [if_pos (decide_eq_true hid), List.getLast?_cons, keep, hid, Function.update_self]
        cases (elements.filter (·.id = id)).getLast? <;> rfl
      · rw [if_neg (by rw [decide_eq_false hid]; exact Bool.false_ne_true), keep,
          Function.update_of_ne fun heq => hid heq.symm]

/-- Of the elements with an id there is a last one. -/
theorem filter_getLast?_ne_none {elements : List HeaderElement} {element : HeaderElement}
    (hmem : element ∈ elements) {id : UInt8} (hid : element.id = id) :
    (elements.filter (·.id = id)).getLast? ≠ none := by
  intro hnone
  have hnil := List.getLast?_eq_none_iff.1 hnone
  exact List.filter_eq_nil_iff.1 hnil element hmem (decide_eq_true hid)

theorem lookupElement_nil (id : UInt8) : lookupElement [] id = none := by
  rw [lookupElement]
  split <;> rfl

/-- The byte before the value of an element has its length. -/
theorem len_of_mem {element : HeaderElement} (h : ReadsFrom read ptr bytes)
    (hmem : element ∈ oneByteElements ptr bytes) :
    0 < element.value ∧ read (element.value - 1) % 16 + 1 = element.len := by
  fun_induction oneByteElements ptr bytes with
  | case1 => cases hmem
  | case2 pos rest ih => exact ih (h.drop 1) hmem
  | case3 => cases hmem
  | case4 pos b rest hb hlen ih =>
      rcases List.mem_cons.1 hmem with rfl | hmem
      · exact ⟨Nat.succ_pos pos, by rw [Nat.add_sub_cancel, h.head]⟩
      · exact ih ((h.drop 1).drop _) hmem

end

/-! ## The loop in both forms -/

section
variable {read : Nat → UInt8} {element : Element} {places : Nat → List Nat} {extensionEnd fuel ptr : Nat}
  {map map' : UInt8 → Option Nat} {id : UInt8}

/-- An id that has an element keeps one. -/
theorem elements_keeps (h : elements read element extensionEnd fuel ptr map = .ok map')
    (hid : map id ≠ none) : map' id ≠ none := by
  induction fuel generalizing ptr map with
  | zero => cases h
  | succ fuel ih =>
      rw [elements] at h
      split at h
      case isTrue =>
        cases h
        exact hid
      case isFalse =>
        dsimp only at h
        split at h
        case isTrue =>
          cases h
          exact hid
        case isFalse =>
          refine ih h ?_
          by_cases hsame : id = (element ptr).1
          · rw [hsame, Function.update_self]
            exact Option.some_ne_none _
          · rw [Function.update_of_ne hsame]
            exact hid

/-- The first element that fits is kept. -/
theorem elements_first (h : elements read element extensionEnd fuel ptr map = .ok map')
    (hptr : ptr < extensionEnd) (hnext : (element ptr).2.2 ≤ extensionEnd) :
    map' (element ptr).1 ≠ none := by
  cases fuel with
  | zero => cases h
  | succ fuel =>
      rw [elements, if_neg (Nat.not_le.2 hptr)] at h
      dsimp only at h
      rw [if_neg (Nat.not_lt.2 hnext)] at h
      refine elements_keeps h ?_
      rw [Function.update_self]
      exact Option.some_ne_none _

/-- Nothing is kept if the first does not fit. -/
theorem elements_none (hptr : ptr < extensionEnd → extensionEnd < (element ptr).2.2) :
    elements read element extensionEnd (fuel + 1) ptr map = .ok map := by
  rw [elements]
  by_cases h : extensionEnd ≤ ptr
  · rw [if_pos h]
  · rw [if_neg h]
    exact if_pos (hptr (Nat.not_le.1 h))

/-- The last element is read, and nothing behind it. -/
theorem elementsReads_none (hptr : ptr < extensionEnd) (hnext : extensionEnd < (element ptr).2.2) :
    Packet.elementsReads read element places extensionEnd (fuel + 1) ptr = places ptr := by
  rw [Packet.elementsReads, if_neg (Nat.not_le.2 hptr)]
  exact if_pos hnext

/-- The loop over the padding reads from where it is. -/
theorem mem_skipPaddingReads {n place : Nat} (h : place ∈ Packet.skipPaddingReads read n ptr) :
    ptr ≤ place ∧ place < ptr + n := by
  induction n generalizing ptr with
  | zero => cases h
  | succ n ih =>
      rw [Packet.skipPaddingReads] at h
      rcases List.mem_cons.1 h with rfl | h
      · omega
      · split at h
        · have := ih h
          omega
        · cases h

/-- If an element is read inside the header extension, so are all. -/
theorem mem_elementsReads {start place : Nat}
    (hplaces : ∀ ptr, start ≤ ptr → ptr < extensionEnd → ∀ place ∈ places ptr,
      start ≤ place ∧ place < extensionEnd)
    (hnext : ∀ ptr, ptr < (element ptr).2.2) (hptr : start ≤ ptr)
    (h : place ∈ Packet.elementsReads read element places extensionEnd fuel ptr) :
    start ≤ place ∧ place < extensionEnd := by
  induction fuel generalizing ptr with
  | zero => cases h
  | succ fuel ih =>
      rw [Packet.elementsReads] at h
      split at h
      case isTrue => cases h
      case isFalse hin =>
        have hin := Nat.not_le.1 hin
        have hlt := hnext ptr
        rcases helement : element ptr with ⟨id, kept, next⟩
        rw [helement] at h hlt
        dsimp only at h hlt
        split at h
        case isTrue => exact hplaces ptr hptr hin place h
        case isFalse =>
          rcases List.mem_append.1 h with h | h
          · rcases List.mem_append.1 h with h | h
            · exact hplaces ptr hptr hin place h
            · have := mem_skipPaddingReads h
              omega
          · have hskip := le_skipPadding read (extensionEnd - next) next
            exact ih (by omega) h

end

/-! ## Packets -/

namespace Packet

variable {p : Packet} {behind : UInt8}

/-- A packet that `Parse` has accepted. -/
structure Parsed (p : Packet) (behind : UInt8) : Prop where
  oneByte : p.getExtensionHeaderId = 0xBEDE →
    Rtp.elements (fun i => p.buf.getD i behind) (oneByteElement fun i => p.buf.getD i behind)
      (p.extensionStart + p.getExtensionHeaderLength)
      (p.extensionStart + p.getExtensionHeaderLength - p.extensionStart + 1) p.extensionStart
      (fun _ => none) = .ok p.oneByteExtensions
  twoBytes : p.getExtensionHeaderId ≠ 0xBEDE → p.getExtensionHeaderId / 16 = 0x100 →
    Rtp.elements (fun i => p.buf.getD i behind) (twoBytesElement fun i => p.buf.getD i behind)
      (p.extensionStart + p.getExtensionHeaderLength)
      (p.extensionStart + p.getExtensionHeaderLength - p.extensionStart + 1) p.extensionStart
      (fun _ => none) = .ok p.twoBytesExtensions ∧ p.oneByteExtensions = fun _ => none
  fits : p.extensionHeader ≠ none → p.extensionStart + p.getExtensionHeaderLength ≤ p.buf.length

/-- What was parsed is what the buffer says. -/
theorem parsed_of_parseExtensions {q : Packet} (h : q.parseExtensions behind = .ok p)
    (hone : q.oneByteExtensions = fun _ => none)
    (hfits : q.extensionHeader ≠ none → q.extensionStart + q.getExtensionHeaderLength ≤ q.buf.length) :
    p.Parsed behind := by
  rw [parseExtensions] at h
  split at h
  case isTrue hid =>
    obtain ⟨map, hmap, heq⟩ := Checked.bind_eq_ok.1 h
    cases heq
    exact ⟨fun _ => hmap, fun hne => absurd hid hne, hfits⟩
  case isFalse hid =>
    split at h
    case isTrue hform =>
      obtain ⟨map, hmap, heq⟩ := Checked.bind_eq_ok.1 h
      cases heq
      exact ⟨fun heq => absurd heq hid, fun _ _ => ⟨hmap, hone⟩, hfits⟩
    case isFalse hform =>
      cases h
      exact ⟨fun heq => absurd heq hid, fun _ hform' => absurd hform' hform, hfits⟩

/-- What `Parse` says of the extensions is what the buffer says. -/
theorem parsed_of_parse {d : List UInt8} (h : parse behind d = .ok (some p)) : p.Parsed behind := by
  rw [parse] at h
  split at h
  case isTrue => cases h
  case isFalse =>
    dsimp only at h
    split at h
    case isTrue => cases h
    case isFalse =>
      split at h
      case h_1 => cases h
      case h_2 extensionHeader size ptr hext =>
        obtain ⟨⟨⟩, -, h⟩ := Checked.bind_eq_ok.1 h
        split at h
        case h_1 => cases h
        case h_2 payloadLength payloadPadding hpad =>
          obtain ⟨⟨⟩, -, h⟩ := Checked.bind_eq_ok.1 h
          obtain ⟨hptr, hheader, -, hin⟩ := checkExtension_eq_some.1 hext
          generalize hq : Packet.mk _ _ _ _ _ _ _ _ _ _ _ = q at h
          cases hparse : q.parseExtensions behind with
          | error fault =>
              rw [hparse] at h
              cases h
          | ok parsed =>
              rw [hparse] at h
              cases h
              refine parsed_of_parseExtensions hparse (by rw [← hq]) fun hsome => ?_
              subst hq
              cases hx : extension d with
              | false =>
                  rw [hx] at hheader
                  exact absurd hheader hsome
              | true =>
                  have hle := hin hx
                  rw [hx, if_pos rfl] at hheader hptr
                  rw [extensionStart, getExtensionHeaderLength]
                  dsimp only
                  rw [hheader]
                  dsimp only [Option.getD]
                  omega

/-- The extension block is read from the buffer. -/
theorem readsFrom_block (p : Packet) (other : UInt8) :
    ReadsFrom (fun i => p.buf.getD i other) p.extensionStart p.extensionBlock := by
  intro i hi
  have hlt : p.extensionStart + i < p.buf.length := by
    rw [extensionBlock, List.length_take, List.length_drop] at hi
    omega
  have hget : p.extensionBlock[i] = p.buf[p.extensionStart + i] := by
    simp only [extensionBlock, List.getElem_take, List.getElem_drop]
  rw [hget]
  exact List.getD_eq_getElem _ _ hlt

/-- The header is there if it has an id. -/
theorem Parsed.length_block (h : p.Parsed behind) (hid : p.getExtensionHeaderId ≠ 0) :
    p.extensionBlock.length = p.getExtensionHeaderLength := by
  have hsome : p.extensionHeader ≠ none := fun hnone => hid (by rw [getExtensionHeaderId, hnone])
  have hfits := h.fits hsome
  rw [extensionBlock, List.length_take, List.length_drop]
  omega

/-- The value is a number of 32-bit words. -/
theorem four_dvd_length (p : Packet) : 4 ∣ p.getExtensionHeaderLength := by
  rw [getExtensionHeaderLength]
  split
  · exact dvd_zero 4
  · exact dvd_mul_left 4 _

/-- Mappings change the map only. -/
theorem addExtensionMappings (p : Packet) (mappings : List (Uri × UInt8)) : ∃ extensionMap,
    mappings.foldl (fun p (uri, id) => p.addExtensionMapping uri id) p = { p with extensionMap } := by
  induction mappings generalizing p with
  | nil => exact ⟨p.extensionMap, rfl⟩
  | cons mapping mappings ih =>
      obtain ⟨extensionMap, h⟩ := ih (p.addExtensionMapping mapping.1 mapping.2)
      exact ⟨extensionMap, h⟩

/-- A URI may be mapped to every id. -/
theorem get_iff : (∀ (mappings : List (Uri × UInt8)) (uri : Uri),
      let q := mappings.foldl (fun p (uri, id) => p.addExtensionMapping uri id) p
      q.getExtension uri = .ok ((q.extensionMap uri).bind (lookupElement q.elements))) ↔
    ∀ id, p.getExtensionById id = .ok (lookupElement p.elements id) := by
  constructor
  · intro h id
    exact h [(.unknown, id)] .unknown
  · intro h mappings uri
    obtain ⟨extensionMap, hq⟩ := p.addExtensionMappings mappings
    dsimp only
    rw [hq, getExtension]
    dsimp only
    cases extensionMap uri with
    | none => rfl
    | some id => exact h id

/-! ## The one-byte form of a packet -/

/-- The one-byte form is read within the block. -/
theorem oneByte_reads (hid : p.getExtensionHeaderId = 0xBEDE) {place : Nat} (hmem : place ∈ p.parseExtensionsReads behind) :
    p.extensionStart ≤ place ∧ place < p.extensionStart + p.getExtensionHeaderLength := by
  rw [parseExtensionsReads, if_pos hid] at hmem
  refine mem_elementsReads (fun ptr hstart hend place hplace => ?_) (fun ptr => ?_) (Nat.le_refl _) hmem
  · rw [List.mem_singleton.1 hplace]
    exact ⟨hstart, hend⟩
  · simp only [oneByteElement]
    omega


section
variable (h : p.Parsed behind) (hid : p.getExtensionHeaderId = 0xBEDE)
include h hid

/-- The block is as long as the header of the extension says. -/
theorem length_block_oneByte : p.extensionBlock.length = p.getExtensionHeaderLength :=
  h.length_block (by rw [hid]; decide)

/-- From an element on, `GetExtension` finds the last element with the id. -/
theorem getExtensionById_oneByte (hhead : p.extensionBlock.head? ≠ some 0) (id : UInt8) :
    p.getExtensionById id = .ok
      ((((oneByteElements p.extensionStart p.extensionBlock).filter (·.id = id)).getLast?).map
        fun element => (element.value, element.len)) := by
  have hblock := length_block_oneByte h hid
  have hloop := h.oneByte hid
  rw [← hblock, elements_oneByte (p.readsFrom_block behind) hhead (by omega)] at hloop
  rw [getExtensionById, if_pos hid, ← Except.ok.inj hloop, foldl_keep]
  cases hlast : ((oneByteElements p.extensionStart p.extensionBlock).filter (·.id = id)).getLast? with
  | none => rfl
  | some element =>
      have hmem := (List.mem_filter.1 (List.mem_of_getLast? hlast)).1
      obtain ⟨hpos, hlen⟩ := len_of_mem (p.readsFrom_block 0) hmem
      change Except.ok (some (element.value - 1 + 1, p.buf.getD (element.value - 1) 0 % 16 + 1)) = _
      rw [hlen, Nat.sub_add_cancel hpos]
      rfl

/-- Padding at the start is kept as an element with the id 0. -/
theorem oneByte_zero (hhead : p.extensionBlock.head? = some 0) : p.oneByteExtensions 0 ≠ none := by
  have hblock := length_block_oneByte h hid
  obtain ⟨rest, hrest⟩ := List.head?_eq_some_iff.1 hhead
  have hread := p.readsFrom_block behind
  have hfour := p.four_dvd_length
  rw [hrest] at hread
  rw [hrest, List.length_cons] at hblock
  have hloop := h.oneByte hid
  have hfirst := elements_first hloop (by omega)
  simp only [oneByteElement] at hfirst
  rw [hread.head] at hfirst
  exact hfirst (by change _ + 1 + (0 % 16 + 1) ≤ _; omega)

/-- In the one-byte form `GetExtension` is right just when the padding and the ids are as it expects them.
-/
theorem oneByte_iff : (∀ id, p.getExtensionById id = .ok (lookupElement p.elements id)) ↔
    p.extensionBlock.head? ≠ some 0 ∧
      ∀ element ∈ oneByteElements p.extensionStart p.extensionBlock, element.id ≠ 0 ∧ element.id ≠ 15 := by
  constructor
  · intro hget
    have hhead : p.extensionBlock.head? ≠ some 0 := by
      intro hzero
      have hkept := oneByte_zero h hid hzero
      have hnone := hget 0
      rw [getExtensionById, if_pos hid] at hnone
      split at hnone
      case h_1 hmap => exact hkept hmap
      case h_2 => cases hnone
    have hlookup : ∀ element ∈ oneByteElements p.extensionStart p.extensionBlock,
        lookupElement p.elements element.id ≠ none := by
      intro element hmem hnone
      have hfound := hget element.id
      rw [getExtensionById_oneByte h hid hhead, hnone] at hfound
      exact filter_getLast?_ne_none hmem rfl (Option.map_eq_none_iff.1 (Except.ok.inj hfound))
    refine ⟨hhead, fun element hmem => ⟨fun hzero => hlookup element hmem ?_, fun hend => ?_⟩⟩
    · rw [hzero]
      rfl
    · refine hlookup element hmem ?_
      rw [hend, elements, if_pos hid, lookupElement, if_neg (by decide), List.filter_eq_nil_iff.2]
      · rfl
      · intro other hother heq
        have hother := List.mem_takeWhile_imp (p := fun e : HeaderElement => decide (e.id ≠ 15)) hother
        exact of_decide_eq_true hother (of_decide_eq_true heq)
  · rintro ⟨hhead, hids⟩ id
    have hall : p.elements = oneByteElements p.extensionStart p.extensionBlock := by
      rw [elements, if_pos hid, List.takeWhile_eq_self_iff]
      exact fun element hmem => decide_eq_true (hids element hmem).2
    rw [getExtensionById_oneByte h hid hhead, hall, lookupElement]
    split
    case isTrue hzero =>
      rw [List.filter_eq_nil_iff.2]
      · rfl
      · intro element hmem heq
        exact (hids element hmem).1 ((of_decide_eq_true heq).trans hzero)
    case isFalse => rfl

end

/-! ## The two-byte form of a packet -/

/-- The block is as long as the header of the extension says. -/
theorem length_block_twoBytes (h : p.Parsed behind) (hform : p.getExtensionHeaderId / 16 = 0x100) :
    p.extensionBlock.length = p.getExtensionHeaderLength :=
  h.length_block fun hzero => by
    rw [hzero] at hform
    exact absurd hform (by decide)

/-- A length that leads behind an element is not zero. -/
theorem ne_zero_of_le {n : Nat} {len : UInt8} (hlen : n + 4 ≤ len.toNat) : len ≠ 0 := fun heq => by
  rw [heq] at hlen
  exact absurd hlen (by simp)

/-- If the first element does not fit, there is one only behind a padding byte. -/
theorem twoByteElements_behind {pos : Nat} {id len next last : UInt8} {rest : List UInt8}
    (hlen : rest.length + 4 ≤ len.toNat) :
    twoByteElements pos (id :: len :: next :: last :: rest) =
      if id = 0 ∧ next.toNat + 3 ≤ rest.length + 4 then
        { id := len, value := pos + 1 + 2, len := next } ::
          twoByteElements (pos + 1 + 2 + next.toNat) ((last :: rest).drop next.toNat)
      else [] := by
  rw [twoByteElements]
  by_cases hid : id = 0
  · rw [if_pos hid, twoByteElements, if_neg (ne_zero_of_le hlen), List.length_cons]
    by_cases hnext : next.toNat + 3 ≤ rest.length + 4
    · rw [if_neg (by omega), if_pos ⟨hid, hnext⟩]
    · rw [if_pos (by omega), if_neg fun h => hnext h.2]
  · have hshort : (next :: last :: rest).length < len.toNat := by
      rw [List.length_cons, List.length_cons]
      omega
    rw [if_neg hid, if_pos hshort, if_neg fun h => hid h.1]

/-- The bytes of the first element, if there is one. -/
theorem block_twoBytes (h : p.Parsed behind) (hform : p.getExtensionHeaderId / 16 = 0x100) :
    p.extensionBlock = [] ∨ ∃ id len next last rest,
    p.extensionBlock = id :: len :: next :: last :: rest := by
  have hblock := length_block_twoBytes h hform
  have hfour := p.four_dvd_length
  rw [← hblock] at hfour
  match p.extensionBlock, hfour with
  | [], _ => exact .inl rfl
  | [_], hfour | [_, _], hfour | [_, _, _], hfour =>
      simp at hfour
  | id :: len :: next :: last :: rest, _ => exact .inr ⟨id, len, next, last, rest, rfl⟩

section
variable (h : p.Parsed behind) (hid : p.getExtensionHeaderId ≠ 0xBEDE)
  (hform : p.getExtensionHeaderId / 16 = 0x100)
include h hid hform

/-- The length of an element that is kept is not found. -/
theorem getExtensionById_twoBytes (id : UInt8) : p.getExtensionById id =
    if p.twoBytesExtensions id = none then .ok none else .error .at := by
  rw [getExtensionById, if_neg hid, if_pos hform, (h.twoBytes hid hform).2]
  cases p.twoBytesExtensions id with
  | none => rfl
  | some ptr => rfl

/-- Nothing is kept if the first element does not fit. -/
theorem twoBytes_none {id len : UInt8} {rest : List UInt8} (hblock : p.extensionBlock = id :: len :: rest)
    (hlen : p.extensionBlock.length ≤ len.toNat) : p.twoBytesExtensions = fun _ => none := by
  have hlength := length_block_twoBytes h hform
  have hread := p.readsFrom_block behind
  rw [hblock] at hread
  have hloop := (h.twoBytes hid hform).1
  rw [elements_none] at hloop
  · exact (Except.ok.inj hloop).symm
  · intro _
    simp only [twoBytesElement]
    rw [(hread.drop 1).head]
    omega

/-- A first element that fits is kept, and its lookup throws. -/
theorem getExtensionById_first {id len : UInt8} {rest : List UInt8}
    (hblock : p.extensionBlock = id :: len :: rest) (hlen : len.toNat < p.extensionBlock.length) :
    p.getExtensionById id = .error .at := by
  have hlength := length_block_twoBytes h hform
  have hread := p.readsFrom_block behind
  rw [hblock] at hread
  have hfirst := elements_first (h.twoBytes hid hform).1 (by omega)
  simp only [twoBytesElement] at hfirst
  rw [hread.head, (hread.drop 1).head] at hfirst
  rw [getExtensionById_twoBytes h hid hform, if_neg (hfirst (by omega))]

/-- In the two-byte form it is right just when the length of the first element covers the block, and also
the one that is read if a zero is in front. -/
theorem twoBytes_iff : (∀ id, p.getExtensionById id = .ok (lookupElement p.elements id)) ↔
    p.extensionBlock = [] ∨ p.extensionBlock.length ≤ (p.extensionBlock.getD 1 0).toNat ∧
      (p.extensionBlock.head? = some 0 →
        p.extensionBlock.length < (p.extensionBlock.getD 2 0).toNat + 3) := by
  have hlength := length_block_twoBytes h hform
  have helements : p.elements = twoByteElements p.extensionStart p.extensionBlock := by
    rw [elements, if_neg hid, if_pos hform]
  rcases block_twoBytes h hform with hnil | ⟨id, len, next, last, rest, hblock⟩
  · refine ⟨fun _ => .inl hnil, fun _ id => ?_⟩
    have hloop := (h.twoBytes hid hform).1
    rw [elements_none] at hloop
    · rw [getExtensionById_twoBytes h hid hform, ← Except.ok.inj hloop, if_pos rfl, helements, hnil,
        twoByteElements, lookupElement_nil]
    · intro hlt
      rw [hnil, List.length_nil] at hlength
      omega
  · have hne : p.extensionBlock ≠ [] := by
      rw [hblock]
      exact List.cons_ne_nil _ _
    have hfits : p.extensionBlock.length = rest.length + 4 := by
      rw [hblock]
      rfl
    have hnone (hlen : rest.length + 4 ≤ len.toNat) (other : UInt8) :
        p.getExtensionById other = .ok none := by
      rw [getExtensionById_twoBytes h hid hform, twoBytes_none h hid hform hblock (by omega), if_pos rfl]
    rw [or_iff_right hne, helements, hblock]
    change _ ↔ rest.length + 4 ≤ len.toNat ∧ (some id = some 0 → rest.length + 4 < next.toNat + 3)
    constructor
    · intro hget
      have hlen : rest.length + 4 ≤ len.toNat := by
        by_contra hlt
        have hfound := hget id
        rw [getExtensionById_first h hid hform hblock (by omega)] at hfound
        cases hfound
      refine ⟨hlen, fun hzero => ?_⟩
      by_contra hlt
      have hlookup := hget len
      rw [hnone hlen, twoByteElements_behind hlen, if_pos ⟨Option.some.inj hzero, by omega⟩,
        lookupElement, if_neg (ne_zero_of_le hlen)] at hlookup
      exact filter_getLast?_ne_none List.mem_cons_self rfl
        (Option.map_eq_none_iff.1 (Except.ok.inj hlookup).symm)
    · rintro ⟨hlen, hzero⟩ other
      rw [hnone hlen, twoByteElements_behind hlen, if_neg, lookupElement_nil]
      rintro ⟨rfl, hle⟩
      have := hzero rfl
      omega

/-- Then it is read within the block. -/
theorem twoBytes_reads (hclean : p.extensionBlock = [] ∨
      p.extensionBlock.length ≤ (p.extensionBlock.getD 1 0).toNat) {place : Nat}
    (hmem : place ∈ p.parseExtensionsReads behind) :
    p.extensionStart ≤ place ∧ place < p.extensionStart + p.getExtensionHeaderLength := by
  have hlength := length_block_twoBytes h hform
  rw [parseExtensionsReads, if_neg hid, if_pos hform] at hmem
  rcases block_twoBytes h hform with hnil | ⟨id, len, next, last, rest, hblock⟩
  · rw [hnil, List.length_nil] at hlength
    rw [elementsReads, if_pos (by omega)] at hmem
    cases hmem
  · have hread := p.readsFrom_block behind
    rw [hblock] at hread hclean hlength
    have hlen : (id :: len :: next :: last :: rest).length ≤ len.toNat :=
      hclean.resolve_left (List.cons_ne_nil _ _)
    simp only [List.length_cons] at hlen hlength
    rw [elementsReads_none (by omega)] at hmem
    swap
    · simp only [twoBytesElement]
      rw [(hread.drop 1).head]
      omega
    rcases List.mem_cons.1 hmem with rfl | hmem
    · omega
    · rw [List.mem_singleton.1 hmem]
      omega

end

/-- **The elements of an accepted packet are right just for these header extensions.** -/
theorem extensionsCorrect_iff (behind : UInt8) (d : List UInt8) (p : Packet)
    (h : parse behind d = .ok (some p)) : p.ExtensionsCorrect behind ↔ p.ExtensionsClean := by
  have hparsed := parsed_of_parse h
  have hcorrect : p.ExtensionsCorrect behind ↔
      (∀ place ∈ p.parseExtensionsReads behind,
        p.extensionStart ≤ place ∧ place < p.extensionStart + p.getExtensionHeaderLength) ∧
      ∀ id, p.getExtensionById id = .ok (lookupElement p.elements id) :=
    ⟨fun h => ⟨h.reads, get_iff.1 h.get⟩, fun h => ⟨h.1, get_iff.2 h.2⟩⟩
  rw [hcorrect, ExtensionsClean]
  by_cases hid : p.getExtensionHeaderId = 0xBEDE
  · rw [if_pos hid, oneByte_iff hparsed hid]
    exact and_iff_right fun place => oneByte_reads hid
  · rw [if_neg hid]
    by_cases hform : p.getExtensionHeaderId / 16 = 0x100
    · rw [if_pos hform, twoBytes_iff hparsed hid hform]
      exact and_iff_right_of_imp fun hclean place =>
        twoBytes_reads hparsed hid hform (hclean.imp_right And.left)
    · rw [if_neg hform]
      refine iff_true_intro ⟨fun place hmem => ?_, fun id => ?_⟩
      · rw [parseExtensionsReads, if_neg hid, if_neg hform] at hmem
        cases hmem
      · rw [getExtensionById, if_neg hid, if_neg hform, elements, if_neg hid, if_neg hform,
          lookupElement_nil]

/-- A packet with a header extension of four bytes. -/
def extensionPacket (id : UInt8) (value : List UInt8) : List UInt8 :=
  [0x90, 111, 0, 1, 0, 0, 0, 2, 0, 0, 0, 3] ++ [id, if id = 0xBE then 0xDE else 0, 0, 1] ++ value

/-- An element of the one-byte form with the id 1 and two bytes, and padding behind it. -/
theorem extensionsCorrect_iff_one_byte : ∃ p,
    parse 0 (extensionPacket 0xBE [0x11, 7, 8, 0]) = .ok (some p) ∧
      (p.ExtensionsCorrect 0 ↔ p.ExtensionsClean) :=
  ⟨_, rfl, extensionsCorrect_iff 0 (extensionPacket 0xBE [0x11, 7, 8, 0]) _ rfl⟩

/-- An element of the two-byte form with the id 1 and two bytes: the byte behind the header extension is
read, and the element's length is looked up in the empty map of the other form. -/
theorem two_byte_element : ∃ p,
    parse 0 (extensionPacket 0x10 [1, 2, 7, 8]) = .ok (some p) ∧
      20 ∈ p.parseExtensionsReads 0 ∧ p.extensionStart + p.getExtensionHeaderLength = 20 ∧
      (p.addExtensionMapping .ssrcAudioLevel 1).getExtension .ssrcAudioLevel = .error .at ∧
      ¬ p.ExtensionsCorrect 0 := by
  refine ⟨_, rfl, by decide, rfl, rfl, fun hcorrect => ?_⟩
  exact absurd (hcorrect.get [(.ssrcAudioLevel, 1)] .ssrcAudioLevel) (fun h => by cases h)

end Packet

end KoreWebsocket.Rtp
