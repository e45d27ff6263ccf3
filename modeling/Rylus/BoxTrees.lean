import Rylus.ByteSlices
import Rylus.WebCodecsPipe

/-!
# Init segments as trees of boxes

A `moov` box is a tree: a box has some fields of its own and then its
children, which fill it to the end.  This file encodes such trees, with sizes
of 32 or 64 bits, and shows that reading them finds the first boxes on the
paths of `extractAvcC` and `feedInitSegment`.
-/

namespace Rylus

open ByteSlices

/-- The fields of a track header. -/
structure TrackHeader where
  version1 : Bool
  flags : Nat
  creationTime : Nat
  modificationTime : Nat
  trackId : Nat
  duration : Nat
  layer : Nat
  alternateGroup : Nat
  volume : Nat
  matrix : Fin 9 → Nat
  /-- In units of 1/65536. -/
  width : UInt32
  height : UInt32

namespace TrackHeader

/-- Times and the duration have 64 bits in version 1 and 32 in version 0. -/
def timeSize (header : TrackHeader) : Nat :=
  if header.version1 then 8 else 4

/-- What precedes the width and the height. -/
def encodeLead (header : TrackHeader) : Bytes :=
  [if header.version1 then 1 else 0] ++ bigEndian 3 header.flags ++
    bigEndian header.timeSize header.creationTime ++
    bigEndian header.timeSize header.modificationTime ++
    bigEndian 4 header.trackId ++ bigEndian 4 0 ++
    bigEndian header.timeSize header.duration ++
    bigEndian 8 0 ++ bigEndian 2 header.layer ++
    bigEndian 2 header.alternateGroup ++ bigEndian 2 header.volume ++
    bigEndian 2 0 ++
    (List.finRange 9).flatMap fun entry => bigEndian 4 (header.matrix entry)

def encode (header : TrackHeader) : Bytes :=
  header.encodeLead ++
    (bigEndian 4 header.width.toNat ++ bigEndian 4 header.height.toNat)

/-- Width and height without their fractions. -/
def size (header : TrackHeader) : Nat × Nat :=
  (header.width.toNat / 2 ^ 16, header.height.toNat / 2 ^ 16)

end TrackHeader

/-- A box with fields of its own and then its children, or a track header; the
flag says whether the size has 64 bits. -/
inductive BoxTree where
  | plain (type : List Nat) (large : Bool) (lead : Bytes)
      (children : List BoxTree)
  | tkhd (large : Bool) (header : TrackHeader)

/-- A box around a body. -/
def frameBox (type : List Nat) (large : Bool) (body : Bytes) : Bytes :=
  if large then
    bigEndian 4 1 ++ type.map UInt8.ofNat ++ bigEndian 8 (body.length + 16) ++
      body
  else
    bigEndian 4 (body.length + 8) ++ type.map UInt8.ofNat ++ body

namespace BoxTree

mutual

def encode : BoxTree → Bytes
  | plain type large lead children =>
      frameBox type large (lead ++ encodeAll children)
  | tkhd large header =>
      frameBox (boxType 't' 'k' 'h' 'd') large header.encode

/-- Boxes one after the other. -/
def encodeAll : List BoxTree → Bytes
  | [] => []
  | box :: boxes => encode box ++ encodeAll boxes

end

def type : BoxTree → List Nat
  | plain type _ _ _ => type
  | tkhd _ _ => boxType 't' 'k' 'h' 'd'

def isLarge : BoxTree → Bool
  | plain _ large _ _ | tkhd large _ => large

def children : BoxTree → List BoxTree
  | plain _ _ _ children => children
  | tkhd _ _ => []

def body : BoxTree → Bytes
  | plain _ _ lead children => lead ++ encodeAll children
  | tkhd _ header => header.encode

theorem encode_eq (box : BoxTree) :
    box.encode = frameBox box.type box.isLarge box.body := by
  cases box <;> simp only [encode, type, isLarge, body]

/-- The length of the fields before the children, for the types whose children
are read. -/
def leadLength (type : List Nat) : Option Nat :=
  if type ∈ [boxType 'm' 'o' 'o' 'v', boxType 't' 'r' 'a' 'k',
      boxType 'm' 'd' 'i' 'a', boxType 'm' 'i' 'n' 'f',
      boxType 's' 't' 'b' 'l'] then some 0
  else if type = boxType 's' 't' 's' 'd' then some 8
  else if type ∈ [boxType 'a' 'v' 'c' '1', boxType 'a' 'v' 'c' '3'] then some 78
  else none

theorem leadLength_moov : leadLength (boxType 'm' 'o' 'o' 'v') = some 0 := by
  decide

theorem leadLength_stsd : leadLength (boxType 's' 't' 's' 'd') = some 8 := by
  decide

/-- The size of a box fits into its field. -/
def SizeFits (large : Bool) (body : Bytes) : Prop :=
  if large then body.length + 16 < 2 ^ 64 else body.length + 8 < 2 ^ 32

instance (large : Bool) (body : Bytes) : Decidable (SizeFits large body) :=
  inferInstanceAs (Decidable (if large then _ else _))

/-- Types are of four bytes, sizes fit, boxes of the known types have the
fields of their types, and `tkhd` boxes are track headers. -/
inductive WellFormed : BoxTree → Prop
  | plain {type : List Nat} {large : Bool} {lead : Bytes}
      {children : List BoxTree}
      (fourBytes : type.length = 4 ∧ ∀ code ∈ type, code < 256)
      (notTkhd : type ≠ boxType 't' 'k' 'h' 'd')
      (leads : ∀ length ∈ leadLength type, lead.length = length)
      (fits : SizeFits large (lead ++ encodeAll children))
      (inside : ∀ child ∈ children, WellFormed child) :
      WellFormed (.plain type large lead children)
  | tkhd {large : Bool} {header : TrackHeader}
      (fits : SizeFits large header.encode) : WellFormed (.tkhd large header)

/-! ### What is to be found -/

/-- The first box of a type. -/
def child (boxes : List BoxTree) (type : List Nat) : Option BoxTree :=
  boxes.find? fun box => decide (box.type = type)

/-- The first box on a path. -/
def descendant (boxes : List BoxTree) : List (List Nat) → Option BoxTree
  | [] => none
  | [type] => child boxes type
  | type :: next :: path =>
      (child boxes type).bind fun box => descendant box.children (next :: path)

/-- The payload of the first `avcC` box in the first `avc1` entry, or the first
`avc3` entry if there is no `avc1`, of the first track. -/
def firstAvcC (moov : BoxTree) : Option Bytes := do
  let stsd ← descendant moov.children
    [boxType 't' 'r' 'a' 'k', boxType 'm' 'd' 'i' 'a',
      boxType 'm' 'i' 'n' 'f', boxType 's' 't' 'b' 'l',
      boxType 's' 't' 's' 'd']
  let entry ← (child stsd.children (boxType 'a' 'v' 'c' '1')).or
    (child stsd.children (boxType 'a' 'v' 'c' '3'))
  let avcC ← child entry.children (boxType 'a' 'v' 'c' 'C')
  return avcC.body

/-- The integer size in the first track header of the first track. -/
def firstTrackSize (moov : BoxTree) : Option (Nat × Nat) := do
  let found ← descendant moov.children
    [boxType 't' 'r' 'a' 'k', boxType 't' 'k' 'h' 'd']
  match found with
  | tkhd _ header => return header.size
  | plain _ _ _ _ => none

end BoxTree

/-! ### Reading fields -/

section Fields

variable {view : Bytes} {offset : Nat}

theorem getUint8_of_occursAt {part : Bytes}
    (occurs : OccursAt view part offset) (index : Nat) {byte : UInt8}
    (isByte : part[index]? = some byte) :
    getUint8 view (offset + index) = .ok byte.toNat := by
  obtain ⟨inside, -⟩ := List.getElem?_eq_some_iff.mp isByte
  rw [getUint8, occurs.getElem? inside, isByte]

theorem getUint32_of_occursAt {value : Nat}
    (occurs : OccursAt view (bigEndian 4 value) offset) :
    getUint32 view offset = .ok (value % 2 ^ 32) := by
  rw [bigEndian_four] at occurs
  have first := getUint8_of_occursAt occurs 0 rfl
  have second := getUint8_of_occursAt occurs 1 rfl
  have third := getUint8_of_occursAt occurs 2 rfl
  have fourth := getUint8_of_occursAt occurs 3 rfl
  rw [Nat.add_zero] at first
  unfold getUint32
  simp only [first, second, third, fourth, bind, Except.bind, pure,
    Except.pure, UInt8.toNat_ofNat']
  rw [Except.ok.injEq]
  omega

theorem uint8Array_of_occursAt {part : Bytes}
    (occurs : OccursAt view part offset) :
    uint8Array view offset (offset + part.length) = .ok part := by
  rw [uint8Array, if_pos ⟨Nat.le_add_right _ _, occurs.length_le⟩,
    Nat.add_sub_cancel_left, occurs.take_drop]

theorem readType_of_occursAt {type : List Nat}
    (fourBytes : type.length = 4 ∧ ∀ code ∈ type, code < 256)
    (occurs : OccursAt view (type.map UInt8.ofNat) (offset + 4)) :
    ([4, 5, 6, 7].mapM fun index => getUint8 view (offset + index)) =
      .ok type := by
  obtain ⟨a, b, c, d, rfl⟩ := List.length_eq_four.mp fourBytes.1
  have read (index code : Nat) (isCode : [a, b, c, d][index]? = some code) :
      getUint8 view (offset + (4 + index)) = .ok code := by
    have isByte : ([a, b, c, d].map UInt8.ofNat)[index]? =
        some (UInt8.ofNat code) := by
      rw [List.getElem?_map, isCode]
      rfl
    rw [← Nat.add_assoc, getUint8_of_occursAt occurs index isByte,
      UInt8.toNat_ofNat',
      Nat.mod_eq_of_lt (fourBytes.2 code (List.mem_of_getElem? isCode))]
  have first := read 0 a rfl
  have second := read 1 b rfl
  have third := read 2 c rfl
  have fourth := read 3 d rfl
  simp only [Nat.reduceAdd] at first second third fourth
  simp [first, second, third, fourth, pure, Except.pure, bind, Except.bind]

end Fields

/-- The header is that of the box, whose body is where the header says. -/
structure Marks (view : Bytes) (header : BoxHeader) (box : BoxTree) :
    Prop where
  sameType : header.type = box.type
  body : OccursAt view box.body header.bodyStart
  ends : header.endOffset = header.bodyStart + box.body.length

namespace BoxTree

variable {box : BoxTree} {view : Bytes} {offset : Nat}

theorem WellFormed.fourBytes (wellFormed : box.WellFormed) :
    box.type.length = 4 ∧ ∀ code ∈ box.type, code < 256 := by
  cases wellFormed with
  | plain fourBytes => exact fourBytes
  | tkhd =>
      change (boxType 't' 'k' 'h' 'd').length = 4 ∧
        ∀ code ∈ boxType 't' 'k' 'h' 'd', code < 256
      decide

theorem WellFormed.sizeFits (wellFormed : box.WellFormed) :
    SizeFits box.isLarge box.body := by
  cases wellFormed with
  | plain _ _ _ fits => exact fits
  | tkhd fits => exact fits

theorem WellFormed.children (wellFormed : box.WellFormed) :
    ∀ child ∈ box.children, child.WellFormed := by
  cases wellFormed with
  | plain _ _ _ _ inside => exact inside
  | tkhd => simp [BoxTree.children]

/-- The fields before the children have the length that is skipped. -/
theorem WellFormed.lead (wellFormed : box.WellFormed) {length : Nat}
    (isLead : leadLength box.type = some length) :
    ∃ lead, box.body = lead ++ encodeAll box.children ∧
      lead.length = length := by
  cases wellFormed with
  | plain _ _ leads => exact ⟨_, rfl, leads length isLead⟩
  | tkhd =>
      change leadLength (boxType 't' 'k' 'h' 'd') = some length at isLead
      have unread : leadLength (boxType 't' 'k' 'h' 'd') = none := by decide
      rw [unread] at isLead
      cases isLead

/-- Reading the header of a box where it is encoded. -/
theorem readBoxHeader_encode (wellFormed : box.WellFormed)
    (occurs : OccursAt view box.encode offset) :
    ∃ header, readBoxHeader view offset = .ok (some header) ∧
      Marks view header box ∧
        header.endOffset = offset + box.encode.length ∧
          8 ≤ box.encode.length := by
  have whole := occurs.length_le
  have fits := wellFormed.sizeFits
  rw [encode_eq, frameBox] at occurs whole ⊢
  rw [SizeFits] at fits
  unfold readBoxHeader
  by_cases large : box.isLarge = true
  · rw [if_pos large] at occurs whole fits ⊢
    have typeLength : (bigEndian 4 1 ++ box.type.map UInt8.ofNat).length =
        8 := by
      rw [List.length_append, length_bigEndian, List.length_map,
        wellFormed.fourBytes.1]
    have lengths : (bigEndian 4 1 ++ box.type.map UInt8.ofNat ++
        bigEndian 8 (box.body.length + 16)).length = 16 := by
      rw [List.length_append, typeLength, length_bigEndian]
    rw [List.length_append, lengths] at whole ⊢
    have marker := getUint32_of_occursAt occurs.left.left.left
    have typed := occurs.left.left.right
    rw [length_bigEndian] at typed
    have sizes := occurs.left.right
    rw [typeLength, bigEndian_eight] at sizes
    have hi := getUint32_of_occursAt sizes.left
    have lo := getUint32_of_occursAt sizes.right
    rw [length_bigEndian, Nat.add_assoc] at lo
    have body := occurs.right
    rw [lengths] at body
    refine ⟨⟨offset, offset + 16, offset + (box.body.length + 16), box.type⟩,
      ?_, ⟨rfl, body, by dsimp only; omega⟩, by dsimp only; omega, by omega⟩
    rw [if_neg (by omega), marker]
    simp only [bind, Except.bind, pure, Except.pure,
      readType_of_occursAt wellFormed.fourBytes typed, hi, lo]
    rw [if_pos (by decide), if_neg (by omega)]
    have size : (box.body.length + 16) / 2 ^ 32 % 2 ^ 32 * 0x100000000 +
        (box.body.length + 16) % 2 ^ 32 = box.body.length + 16 := by
      omega
    rw [size]
  · rw [if_neg large] at occurs whole fits ⊢
    have lengths : (bigEndian 4 (box.body.length + 8) ++
        box.type.map UInt8.ofNat).length = 8 := by
      rw [List.length_append, length_bigEndian, List.length_map,
        wellFormed.fourBytes.1]
    rw [List.length_append, lengths] at whole ⊢
    have size := getUint32_of_occursAt occurs.left.left
    rw [Nat.mod_eq_of_lt fits] at size
    have typed := occurs.left.right
    rw [length_bigEndian] at typed
    have body := occurs.right
    rw [lengths] at body
    refine ⟨⟨offset, offset + 8, offset + (box.body.length + 8), box.type⟩,
      ?_, ⟨rfl, body, by dsimp only; omega⟩, by dsimp only; omega, by omega⟩
    rw [if_neg (by omega), size]
    simp only [bind, Except.bind, pure, Except.pure,
      readType_of_occursAt wellFormed.fourBytes typed]
    rw [if_neg (by omega), if_neg (by omega)]

/-! ### Finding boxes -/

/-- A box of the type was found. -/
structure Finds (view : Bytes) (type : List Nat) (header : BoxHeader)
    (box : BoxTree) : Prop extends Marks view header box where
  wellFormed : box.WellFormed
  isType : box.type = type

/-- A search for a type returns the header of the box expected of it. -/
def Agrees (view : Bytes) (type : List Nat)
    (search : Except Fault (Option BoxHeader)) (expected : Option BoxTree) :
    Prop :=
  search = .ok none ∧ expected = none ∨
    ∃ header box, search = .ok (some header) ∧ expected = some box ∧
      Finds view type header box

theorem length_encode_pos (box : BoxTree) : 0 < box.encode.length := by
  rw [encode_eq, frameBox]
  split <;> simp

/-- There are no more boxes than bytes. -/
theorem length_le_encodeAll (boxes : List BoxTree) :
    boxes.length ≤ (encodeAll boxes).length := by
  induction boxes with
  | nil => exact Nat.zero_le _
  | cons box boxes ih =>
      have some := box.length_encode_pos
      rw [encodeAll, List.length_append, List.length_cons]
      omega

theorem findBoxFrom_encodeAll {boxes : List BoxTree}
    (wellFormed : ∀ box ∈ boxes, box.WellFormed)
    (occurs : OccursAt view (encodeAll boxes) offset) {rounds : Nat}
    (enough : boxes.length < rounds) (type : List Nat) :
    Agrees view type
      (findBoxFrom view (offset + (encodeAll boxes).length) type rounds offset)
      (child boxes type) := by
  induction boxes generalizing offset rounds with
  | nil =>
      obtain ⟨rounds, rfl⟩ := Nat.exists_eq_add_one.mpr enough
      refine .inl ⟨?_, rfl⟩
      rw [findBoxFrom, if_neg (by simp [encodeAll])]
      rfl
  | cons box boxes ih =>
      obtain ⟨rounds, rfl⟩ := Nat.exists_eq_add_one.mpr
        (Nat.zero_lt_of_lt enough)
      rw [List.forall_mem_cons] at wellFormed
      rw [encodeAll] at occurs
      obtain ⟨header, read, marks, ends, long⟩ :=
        readBoxHeader_encode wellFormed.1 occurs.left
      have inside : offset < offset + (encodeAll (box :: boxes)).length := by
        rw [encodeAll, List.length_append]
        omega
      have last : offset + (encodeAll (box :: boxes)).length =
          header.endOffset + (encodeAll boxes).length := by
        rw [encodeAll, List.length_append, ends, Nat.add_assoc]
      rw [findBoxFrom, if_pos inside, read, child, List.find?_cons]
      simp only [bind, Except.bind, marks.sameType]
      by_cases isType : box.type = type
      · rw [if_pos isType, decide_eq_true isType]
        exact .inr ⟨header, box, rfl, rfl, marks, wellFormed.1, isType⟩
      · rw [if_neg isType, decide_eq_false isType, last]
        apply ih wellFormed.2
        · rw [ends]
          exact occurs.right
        · rw [List.length_cons] at enough
          omega

/-- `findBox` finds the first box of the type. -/
theorem findBox_encodeAll {boxes : List BoxTree}
    (wellFormed : ∀ box ∈ boxes, box.WellFormed)
    (occurs : OccursAt view (encodeAll boxes) offset) (type : List Nat) :
    Agrees view type
      (findBox view offset (offset + (encodeAll boxes).length) type)
      (child boxes type) := by
  have fewer := length_le_encodeAll boxes
  have inView := occurs.length_le
  exact findBoxFrom_encodeAll wellFormed occurs (by omega) type

/-- The children of a box that was found come behind its own fields. -/
theorem Finds.children {type : List Nat} {header : BoxHeader} {length : Nat}
    (finds : Finds view type header box)
    (isLead : leadLength type = some length) :
    OccursAt view (encodeAll box.children) (header.bodyStart + length) ∧
      header.endOffset = header.bodyStart + length +
        (encodeAll box.children).length := by
  rw [← finds.isType] at isLead
  obtain ⟨lead, body, leadLength⟩ := finds.wellFormed.lead isLead
  have occurs := finds.body
  rw [body] at occurs
  rw [← leadLength]
  refine ⟨occurs.right, ?_⟩
  rw [finds.ends, body, List.length_append, Nat.add_assoc]

/-- `findDescendant` finds the first box on a path of containers. -/
theorem findDescendantFrom_encodeAll {boxes : List BoxTree}
    (wellFormed : ∀ box ∈ boxes, box.WellFormed)
    (occurs : OccursAt view (encodeAll boxes) offset)
    (type last : List Nat) (path : List (List Nat))
    (containers : ∀ container ∈ (type :: path).dropLast,
      leadLength container = some 0)
    (isLast : (type :: path).getLast? = some last)
    (found : Option BoxHeader) :
    Agrees view last
      (findDescendantFrom view offset (offset + (encodeAll boxes).length)
        found (type :: path)) (descendant boxes (type :: path)) := by
  induction path generalizing boxes offset type found with
  | nil =>
      obtain rfl : type = last := Option.some.inj isLast
      rw [findDescendantFrom, descendant]
      rcases findBox_encodeAll wellFormed occurs type with
        ⟨search, expected⟩ | ⟨header, box, search, expected, finds⟩
      · rw [search, expected]
        exact .inl ⟨rfl, rfl⟩
      · rw [search, expected]
        exact .inr ⟨header, box, rfl, rfl, finds⟩
  | cons next path ih =>
      rw [List.dropLast_cons_cons, List.forall_mem_cons] at containers
      rw [List.getLast?_cons_cons] at isLast
      rw [findDescendantFrom, descendant]
      rcases findBox_encodeAll wellFormed occurs type with
        ⟨search, expected⟩ | ⟨header, box, search, expected, finds⟩
      · rw [search, expected]
        exact .inl ⟨rfl, rfl⟩
      · obtain ⟨occursChildren, ends⟩ := finds.children containers.1
        have rest := ih finds.wellFormed.children occursChildren next
          containers.2 isLast (some header)
        rw [← ends] at rest
        rw [search, expected]
        exact rest

/-- The boxes on a path inside a `moov` box. -/
theorem findDescendant_encode {header : BoxHeader}
    (finds : Finds view (boxType 'm' 'o' 'o' 'v') header box)
    (type last : List Nat) (path : List (List Nat))
    (containers : ∀ container ∈ (type :: path).dropLast,
      leadLength container = some 0)
    (isLast : (type :: path).getLast? = some last) :
    Agrees view last
      (findDescendant view header.bodyStart header.endOffset (type :: path))
      (descendant box.children (type :: path)) := by
  obtain ⟨occurs, ends⟩ := finds.children leadLength_moov
  have agrees := findDescendantFrom_encodeAll finds.wellFormed.children occurs
    type last path containers isLast none
  rw [← ends, Nat.add_zero] at agrees
  exact agrees

/-! ### Reading an init segment -/

/-- The payload of the first configuration record is cut out of an entry. -/
theorem extractEntry_encode {type : List Nat} {header : BoxHeader}
    (finds : Finds view type header box)
    (isEntry : leadLength type = some 78) :
    (do
      match ← findBox view (header.bodyStart + 78) header.endOffset
          (boxType 'a' 'v' 'c' 'C') with
      | none => return none
      | some avcC =>
          return some (← uint8Array view avcC.bodyStart avcC.endOffset)) =
      Except.ok ((child box.children (boxType 'a' 'v' 'c' 'C')).bind
        fun avcC => some avcC.body) := by
  obtain ⟨occurs, ends⟩ := finds.children isEntry
  rw [ends]
  rcases findBox_encodeAll finds.wellFormed.children occurs
      (boxType 'a' 'v' 'c' 'C') with
    ⟨search, expected⟩ | ⟨record, avcC, search, expected, found⟩
  · rw [search, expected]
    rfl
  · rw [search, expected]
    simp only [bind, Except.bind, found.ends, uint8Array_of_occursAt found.body]
    rfl

theorem extractAvcC_encode {header : BoxHeader}
    (finds : Finds view (boxType 'm' 'o' 'o' 'v') header box) :
    extractAvcC view header = .ok box.firstAvcC := by
  unfold extractAvcC firstAvcC
  dsimp only
  rcases findDescendant_encode finds (boxType 't' 'r' 'a' 'k')
      (boxType 's' 't' 's' 'd')
      [boxType 'm' 'd' 'i' 'a', boxType 'm' 'i' 'n' 'f',
        boxType 's' 't' 'b' 'l', boxType 's' 't' 's' 'd'] (by decide) rfl with
    ⟨search, expected⟩ | ⟨stsdHeader, stsd, search, expected, found⟩
  · rw [search, expected]
    rfl
  · rw [search, expected]
    simp only [bind, Except.bind, pure, Except.pure, Option.bind_some]
    obtain ⟨entries, entriesEnd⟩ := found.children leadLength_stsd
    by_cases empty : stsdHeader.endOffset ≤ stsdHeader.bodyStart + 8
    · have few := length_le_encodeAll stsd.children
      have noEntries : stsd.children = [] :=
        List.eq_nil_of_length_eq_zero (by omega)
      rw [if_pos empty, noEntries]
      rfl
    · rw [if_neg empty, entriesEnd]
      rcases findBox_encodeAll found.wellFormed.children entries
          (boxType 'a' 'v' 'c' '1') with
        ⟨noAvc1, noChild⟩ | ⟨avc1Header, avc1, isAvc1, isChild, foundAvc1⟩
      · rw [noAvc1, noChild, Option.none_or]
        dsimp only
        rcases findBox_encodeAll found.wellFormed.children entries
            (boxType 'a' 'v' 'c' '3') with
          ⟨noAvc3, noChild⟩ | ⟨avc3Header, avc3, isAvc3, isChild, foundAvc3⟩
        · rw [noAvc3, noChild]
          rfl
        · rw [isAvc3, isChild]
          exact extractEntry_encode foundAvc3 (by decide)
      · rw [isAvc1, isChild]
        exact extractEntry_encode foundAvc1 (by decide)

/-- Where the code looks for the width. -/
theorem length_encodeLead (header : TrackHeader) :
    header.encodeLead.length =
      (if header.version1 then 32 else 20) + 4 + 8 + 36 + 2 + 2 + 4 := by
  simp only [TrackHeader.encodeLead, TrackHeader.timeSize, List.length_append,
    List.length_flatMap, length_bigEndian, List.length_singleton]
  cases header.version1 <;> simp

theorem readTrackHeader_encode {track : TrackHeader} {bodyStart endOffset : Nat}
    (occurs : OccursAt view track.encode bodyStart)
    (ends : endOffset = bodyStart + track.encode.length) :
    (do
      let version ← getUint8 view bodyStart
      let base := bodyStart + (if version = 1 then 32 else 20) +
        4 + 8 + 36 + 2 + 2 + 4
      if base + 8 ≤ endOffset then
        let width ← getUint32 view base
        let height ← getUint32 view (base + 4)
        return some (width >>> 16, height >>> 16)
      else
        return none) = Except.ok (some track.size) := by
  have version : getUint8 view bodyStart =
      .ok (if track.version1 then 1 else 0) := by
    rw [← Nat.add_zero bodyStart, getUint8_of_occursAt occurs 0 rfl]
    cases track.version1 <;> rfl
  have lead : bodyStart +
      (if (if track.version1 then 1 else 0) = 1 then 32 else 20) +
        4 + 8 + 36 + 2 + 2 + 4 = bodyStart + track.encodeLead.length := by
    rw [length_encodeLead]
    cases track.version1 <;> simp
  have width := getUint32_of_occursAt occurs.right.left
  have height := getUint32_of_occursAt occurs.right.right
  rw [Nat.mod_eq_of_lt track.width.toNat_lt] at width
  rw [length_bigEndian, Nat.mod_eq_of_lt track.height.toNat_lt] at height
  have inside : bodyStart + track.encodeLead.length + 8 ≤ endOffset := by
    rw [ends, TrackHeader.encode, List.length_append, List.length_append,
      length_bigEndian, length_bigEndian]
    omega
  simp only [bind, Except.bind, pure, Except.pure, version, lead, width, height,
    if_pos inside, TrackHeader.size, Nat.shiftRight_eq_div_pow]

theorem trackSize_encode {header : BoxHeader}
    (finds : Finds view (boxType 'm' 'o' 'o' 'v') header box) :
    trackSize view header = .ok box.firstTrackSize := by
  unfold trackSize firstTrackSize
  rcases findDescendant_encode finds (boxType 't' 'r' 'a' 'k')
      (boxType 't' 'k' 'h' 'd') [boxType 't' 'k' 'h' 'd'] (by decide) rfl with
    ⟨search, expected⟩ | ⟨tkhdHeader, tkhd, search, expected, found⟩
  · rw [search, expected]
    rfl
  · rw [search, expected]
    have wellFormed := found.wellFormed
    cases wellFormed with
    | plain _ notTkhd => exact absurd found.isType notTkhd
    | tkhd fits => exact readTrackHeader_encode found.body found.ends

/-- Wherever a well-formed `moov` box is in a buffer, its header is read there,
the payload of the first `avcC` box is extracted, and the decoder is made of
that payload and of the size in the first track header. -/
theorem feedInitSegment_encode {moov : BoxTree}
    (isMoov : moov.type = boxType 'm' 'o' 'o' 'v')
    (wellFormed : moov.WellFormed) (before after : Bytes)
    (pipe : WebCodecsPipe) (answer : PlatformAnswer) :
    let view := before ++ moov.encode ++ after
    ∃ header, readBoxHeader view before.length = .ok (some header) ∧
      extractAvcC view header = .ok moov.firstAvcC ∧
      trackSize view header = .ok moov.firstTrackSize ∧
      pipe.feedInitSegment view header answer =
        match moov.firstAvcC with
        | none => (pipe.onError .noAvcC, none)
        | some avcC =>
            pipe.ensureDecoder ⟨avcC, moov.firstTrackSize⟩ answer := by
  intro view
  obtain ⟨header, read, marks, -⟩ := readBoxHeader_encode wellFormed
    (occursAt_between before moov.encode after)
  have finds : Finds view (boxType 'm' 'o' 'o' 'v') header moov :=
    ⟨marks, wellFormed, isMoov⟩
  have extracted := extractAvcC_encode finds
  have sized := trackSize_encode finds
  refine ⟨header, read, extracted, sized, ?_⟩
  rw [WebCodecsPipe.feedInitSegment, extracted, sized]
  cases moov.firstAvcC <;> rfl

/-- A track of 640 by 480 pixels. -/
def smallTrack : TrackHeader where
  version1 := true
  flags := 7
  creationTime := 0
  modificationTime := 0
  trackId := 1
  duration := 0
  layer := 0
  alternateGroup := 0
  volume := 0
  matrix := fun entry => if entry = 0 ∨ entry = 4 then 0x10000 else 0
  width := 0x02800000
  height := 0x01e00000

/-- A `moov` box with a track header, a free box and a record. -/
def smallMoov : BoxTree :=
  let entry := plain (boxType 'a' 'v' 'c' '3') false (List.replicate 78 0)
    [plain (boxType 'a' 'v' 'c' 'C') true [1, 0x42, 0xe0, 0x1e, 0xff] []]
  let stsd := plain (boxType 's' 't' 's' 'd') false [0, 0, 0, 0, 0, 0, 0, 1]
    [entry]
  plain (boxType 'm' 'o' 'o' 'v') false []
    [plain (boxType 'f' 'r' 'e' 'e') true [1, 2, 3] [],
      plain (boxType 't' 'r' 'a' 'k') false []
        [tkhd false smallTrack,
          plain (boxType 'm' 'd' 'i' 'a') false []
            [plain (boxType 'm' 'i' 'n' 'f') true []
              [plain (boxType 's' 't' 'b' 'l') false [] [stsd]]]]]

theorem smallMoov_wellFormed : smallMoov.WellFormed := by
  refine .plain (by decide) (by decide) (by decide) (by decide +kernel) ?_
  rw [List.forall_mem_cons, List.forall_mem_singleton]
  constructor
  · -- `free`
    exact .plain (by decide) (by decide) (by decide) (by decide)
      (List.forall_mem_nil _)
  · -- `trak`
    refine .plain (by decide) (by decide) (by decide) (by decide +kernel) ?_
    rw [List.forall_mem_cons, List.forall_mem_singleton]
    refine ⟨.tkhd (by decide), ?_⟩
    -- down to the sample entry there are only children
    iterate 5
      refine .plain (by decide) (by decide) (by decide) (by decide +kernel) ?_
      rw [List.forall_mem_singleton]
    exact .plain (by decide) (by decide) (by decide) (by decide)
      (List.forall_mem_nil _)

/-- The theorem on it, behind another box and before some bytes. -/
theorem feedInitSegment_encode_smallMoov :
    let view := encodeBox (boxType 'f' 't' 'y' 'p') [1, 2, 3, 4] ++
      smallMoov.encode ++ [0, 0]
    smallMoov.firstTrackSize = some (640, 480) ∧
      ∃ avcC, smallMoov.firstAvcC = some avcC ∧
        ∃ header, readBoxHeader view 12 = .ok (some header) ∧
          extractAvcC view header = .ok (some avcC) ∧
          trackSize view header = .ok (some (640, 480)) ∧
          (WebCodecsPipe.create "avc1").feedInitSegment view header
              ⟨true, true⟩ =
            (WebCodecsPipe.create "avc1").ensureDecoder
              ⟨avcC, some (640, 480)⟩ ⟨true, true⟩ := by
  have avcC : smallMoov.firstAvcC = some [1, 0x42, 0xe0, 0x1e, 0xff] := by
    decide
  have size : smallMoov.firstTrackSize = some (640, 480) := by decide
  have fed := feedInitSegment_encode rfl smallMoov_wellFormed
    (encodeBox (boxType 'f' 't' 'y' 'p') [1, 2, 3, 4]) [0, 0]
    (WebCodecsPipe.create "avc1") ⟨true, true⟩
  rw [avcC, size] at fed
  exact ⟨size, _, avcC, fed⟩

end BoxTree

end Rylus
