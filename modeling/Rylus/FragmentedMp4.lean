import Mathlib.Algebra.Order.Ring.Nat

/-!
# Reading the fragmented MP4 stream

The boxes of a buffer, the decoder configuration in a `moov` box and the NAL
units of an access unit, read as the browser reads them.  Numbers are natural
numbers: a size too large for a double is larger than any buffer either way.
-/

namespace Rylus

abbrev Bytes := List UInt8

/-- What a call can come to instead of returning. -/
inductive Fault where
  | rangeError
  | typeError
  | diverges
  deriving DecidableEq

/-- `DataView.getUint8`. -/
def getUint8 (view : Bytes) (offset : Nat) : Except Fault Nat :=
  match view[offset]? with
  | some byte => .ok byte.toNat
  | none => .error .rangeError

/-- `DataView.getUint32`, big endian. -/
def getUint32 (view : Bytes) (offset : Nat) : Except Fault Nat := do
  let first ← getUint8 view offset
  let second ← getUint8 view (offset + 1)
  let third ← getUint8 view (offset + 2)
  let fourth ← getUint8 view (offset + 3)
  return ((first * 256 + second) * 256 + third) * 256 + fourth

/-- `new Uint8Array(buffer, start, length)`, with the end instead of the
length. -/
def uint8Array (view : Bytes) (start endOffset : Nat) : Except Fault Bytes :=
  if start ≤ endOffset ∧ endOffset ≤ view.length then
    .ok ((view.drop start).take (endOffset - start))
  else
    .error .rangeError

/-- The character codes of a box type. -/
def boxType (first second third fourth : Char) : List Nat :=
  [first, second, third, fourth].map Char.toNat

structure BoxHeader where
  start : Nat
  bodyStart : Nat
  endOffset : Nat
  type : List Nat
  deriving DecidableEq

def readBoxHeader (view : Bytes) (offset : Nat) :
    Except Fault (Option BoxHeader) := do
  if view.length < offset + 8 then
    return none
  let size ← getUint32 view offset
  let type ← [4, 5, 6, 7].mapM fun index => getUint8 view (offset + index)
  if size = 1 then
    if view.length < offset + 16 then
      return none
    let hi ← getUint32 view (offset + 8)
    let lo ← getUint32 view (offset + 12)
    return some ⟨offset, offset + 16, offset + (hi * 0x100000000 + lo), type⟩
  else if size = 0 then
    return some ⟨offset, offset + 8, view.length, type⟩
  else
    return some ⟨offset, offset + 8, offset + size, type⟩

/-- The loop of `findBox`.  A box that does not end after its start repeats
itself, so that a loop of more rounds than the buffer has bytes never ends. -/
def findBoxFrom (view : Bytes) (endOffset : Nat) (type : List Nat) :
    Nat → Nat → Except Fault (Option BoxHeader)
  | 0, _ => .error .diverges
  | rounds + 1, offset =>
      if offset < endOffset then do
        match ← readBoxHeader view offset with
        | none => return none
        | some header =>
            if header.type = type then
              return some header
            else
              findBoxFrom view endOffset type rounds header.endOffset
      else
        return none

def findBox (view : Bytes) (start endOffset : Nat) (type : List Nat) :
    Except Fault (Option BoxHeader) :=
  findBoxFrom view endOffset type (view.length + 1) start

/-- The loop of `findDescendant`. -/
def findDescendantFrom (view : Bytes) (start endOffset : Nat)
    (found : Option BoxHeader) :
    List (List Nat) → Except Fault (Option BoxHeader)
  | [] => return found
  | type :: path => do
      match ← findBox view start endOffset type with
      | none => return none
      | some found =>
          findDescendantFrom view found.bodyStart found.endOffset
            (some found) path

def findDescendant (view : Bytes) (start endOffset : Nat)
    (path : List (List Nat)) : Except Fault (Option BoxHeader) :=
  findDescendantFrom view start endOffset none path

/-- The decoder configuration record of a `moov` box. -/
def extractAvcC (view : Bytes) (moov : BoxHeader) :
    Except Fault (Option Bytes) := do
  let path := [boxType 't' 'r' 'a' 'k', boxType 'm' 'd' 'i' 'a',
    boxType 'm' 'i' 'n' 'f', boxType 's' 't' 'b' 'l', boxType 's' 't' 's' 'd']
  match ← findDescendant view moov.bodyStart moov.endOffset path with
  | none => return none
  | some stsd =>
      let entriesStart := stsd.bodyStart + 8
      if stsd.endOffset ≤ entriesStart then
        return none
      let avc1 ←
        match ← findBox view entriesStart stsd.endOffset
            (boxType 'a' 'v' 'c' '1') with
        | some avc1 => pure (some avc1)
        | none =>
            findBox view entriesStart stsd.endOffset (boxType 'a' 'v' 'c' '3')
      match avc1 with
      | none => return none
      | some avc1 =>
          let childrenStart := avc1.bodyStart + 78
          match ← findBox view childrenStart avc1.endOffset
              (boxType 'a' 'v' 'c' 'C') with
          | none => return none
          | some avcC =>
              return some (← uint8Array view avcC.bodyStart avcC.endOffset)

/-- Width and height in the track header of a `moov` box, as
`feedInitSegment` reads them. -/
def trackSize (view : Bytes) (moov : BoxHeader) :
    Except Fault (Option (Nat × Nat)) := do
  match ← findDescendant view moov.bodyStart moov.endOffset
      [boxType 't' 'r' 'a' 'k', boxType 't' 'k' 'h' 'd'] with
  | none => return none
  | some tkhd =>
      let version ← getUint8 view tkhd.bodyStart
      let base := tkhd.bodyStart + (if version = 1 then 32 else 20) +
        4 + 8 + 36 + 2 + 2 + 4
      if base + 8 ≤ tkhd.endOffset then
        let width ← getUint32 view base
        let height ← getUint32 view (base + 4)
        return some (width >>> 16, height >>> 16)
      else
        return none

/-- First NALU type in an access unit; 5 is an IDR slice. -/
def firstNaluType (data : Bytes) (nalLenSize : Nat) : Nat :=
  match data[nalLenSize]? with
  | some header => header.toNat &&& 0x1f
  | none => 0

/-- Number of length-prefix bytes encoded in a configuration record. -/
def nalLengthSize (avcC : Bytes) : Nat :=
  match avcC[4]? with
  | some lengthSize => (lengthSize.toNat &&& 0x03) + 1
  | none => 4

/-- The boxes of a buffer, as the loop of `feed` meets them. -/
def topLevelBoxesFrom (view : Bytes) :
    Nat → Nat → Except Fault (List BoxHeader)
  | 0, _ => .error .diverges
  | rounds + 1, offset =>
      if offset < view.length then do
        match ← readBoxHeader view offset with
        | none => return []
        | some header =>
            return header :: (← topLevelBoxesFrom view rounds header.endOffset)
      else
        return []

def topLevelBoxes (view : Bytes) : Except Fault (List BoxHeader) :=
  topLevelBoxesFrom view (view.length + 1) 0

/-- The types of the NAL units of an access unit in which each is preceded by
its length; `none` when the lengths do not fit. -/
def naluTypesFrom (nalLenSize : Nat) : Nat → Bytes → Option (List Nat)
  | _, [] => some []
  | 0, _ :: _ => none
  | rounds + 1, data@(_ :: _) =>
      let length := (data.take nalLenSize).foldl
        (fun length byte => length * 256 + byte.toNat) 0
      match data.drop nalLenSize with
      | [] => none
      | header :: body =>
          if 1 ≤ length ∧ length ≤ body.length + 1 then do
            let types ←
              naluTypesFrom nalLenSize rounds (body.drop (length - 1))
            return (header.toNat &&& 0x1f) :: types
          else
            none

def naluTypes (nalLenSize : Nat) (data : Bytes) : Option (List Nat) :=
  naluTypesFrom nalLenSize data.length data

/-- An access unit with an IDR slice among its NAL units. -/
def IsIdr (nalLenSize : Nat) (data : Bytes) : Prop :=
  ∃ types, naluTypes nalLenSize data = some types ∧ 5 ∈ types

/-- A box with a size of 32 bits. -/
def encodeBox (type : List Nat) (body : Bytes) : Bytes :=
  let size := body.length + 8
  [size / 2 ^ 24, size / 2 ^ 16, size / 2 ^ 8, size].map UInt8.ofNat ++
    type.map UInt8.ofNat ++ body

/-- A `moov` box with one track and one sample entry. -/
def encodeMoov (avcC : Bytes) : Bytes :=
  let avc1 := encodeBox (boxType 'a' 'v' 'c' '1')
    (List.replicate 78 0 ++ encodeBox (boxType 'a' 'v' 'c' 'C') avcC)
  let stsd := encodeBox (boxType 's' 't' 's' 'd') (List.replicate 8 0 ++ avc1)
  [boxType 'm' 'o' 'o' 'v', boxType 't' 'r' 'a' 'k', boxType 'm' 'd' 'i' 'a',
    boxType 'm' 'i' 'n' 'f', boxType 's' 't' 'b' 'l'].foldr encodeBox stsd

/-- A fragment with one access unit. -/
def encodeFragment (data : Bytes) : Bytes :=
  encodeBox (boxType 'm' 'o' 'o' 'f') [] ++
    encodeBox (boxType 'm' 'd' 'a' 't') data

end Rylus
