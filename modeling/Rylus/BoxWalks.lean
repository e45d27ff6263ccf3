import Rylus.BufferWalks
import Rylus.WebCodecsPipe

/-!
# When reading boxes returns

Nothing checks the ends of boxes.  This file says of which buffers the
searches for boxes and `feed` return: a walk must not come to a box that ends
where it starts, and the array cut out of a box must be inside the buffer.
-/

namespace Rylus

open BufferWalks

/-- A platform that rejects a configuration is not a failure of the reader. -/
def IsReadFault (fault : Fault) : Prop :=
  fault ≠ .typeError

/-! ### The boxes of a buffer -/

section Bytes

variable {view : Bytes} {offset : Nat}

/-- The byte at an offset inside the buffer. -/
def byteAt (view : Bytes) (offset : Nat) : Nat :=
  (view.getD offset 0).toNat

/-- Four bytes, big endian. -/
def wordAt (view : Bytes) (offset : Nat) : Nat :=
  ((byteAt view offset * 256 + byteAt view (offset + 1)) * 256 +
    byteAt view (offset + 2)) * 256 + byteAt view (offset + 3)

def typeAt (view : Bytes) (offset : Nat) : List Nat :=
  [4, 5, 6, 7].map fun index => byteAt view (offset + index)

/-- The header of the box at an offset, with a size of 32 bits, up to the end
of the buffer, or with a size of 64 bits. -/
inductive HasBox (view : Bytes) (offset : Nat) : BoxHeader → Prop
  | small (inside : offset + 8 ≤ view.length)
      (size : 2 ≤ wordAt view offset) :
      HasBox view offset
        ⟨offset, offset + 8, offset + wordAt view offset, typeAt view offset⟩
  | toEnd (inside : offset + 8 ≤ view.length)
      (size : wordAt view offset = 0) :
      HasBox view offset
        ⟨offset, offset + 8, view.length, typeAt view offset⟩
  | large (inside : offset + 16 ≤ view.length)
      (size : wordAt view offset = 1) :
      HasBox view offset
        ⟨offset, offset + 16, offset + (wordAt view (offset + 8) * 2 ^ 32 +
          wordAt view (offset + 12)), typeAt view offset⟩

theorem HasBox.unique {first second : BoxHeader}
    (hasFirst : HasBox view offset first)
    (hasSecond : HasBox view offset second) : first = second := by
  cases hasFirst <;> cases hasSecond <;> first | rfl | omega

theorem HasBox.start_eq {box : BoxHeader} (hasBox : HasBox view offset box) :
    box.start = offset := by
  cases hasBox <;> rfl

theorem HasBox.inside {box : BoxHeader} (hasBox : HasBox view offset box) :
    offset + 8 ≤ view.length := by
  cases hasBox <;> omega

theorem HasBox.le_endOffset {box : BoxHeader}
    (hasBox : HasBox view offset box) : offset ≤ box.endOffset := by
  cases hasBox <;> dsimp only <;> omega

theorem getUint8_eq (inside : offset < view.length) :
    getUint8 view offset = .ok (byteAt view offset) := by
  rw [getUint8, byteAt, List.getD_eq_getElem?_getD,
    List.getElem?_eq_getElem inside]
  rfl

theorem getUint8_of_le (outside : view.length ≤ offset) :
    getUint8 view offset = .error .rangeError := by
  rw [getUint8, List.getElem?_eq_none outside]

theorem getUint32_eq (inside : offset + 4 ≤ view.length) :
    getUint32 view offset = .ok (wordAt view offset) := by
  unfold getUint32
  rw [getUint8_eq (by omega), getUint8_eq (by omega), getUint8_eq (by omega),
    getUint8_eq (by omega)]
  rfl

theorem getUint32_of_lt (outside : view.length < offset + 4) :
    getUint32 view offset = .error .rangeError := by
  unfold getUint32
  by_cases first : offset < view.length
  · rw [getUint8_eq first]
    by_cases second : offset + 1 < view.length
    · rw [getUint8_eq second]
      by_cases third : offset + 2 < view.length
      · rw [getUint8_eq third,
          getUint8_of_le (show view.length ≤ offset + 3 by omega)]
        rfl
      · rw [getUint8_of_le (Nat.not_lt.mp third)]
        rfl
    · rw [getUint8_of_le (Nat.not_lt.mp second)]
      rfl
  · rw [getUint8_of_le (Nat.not_lt.mp first)]
    rfl

theorem readType_eq (inside : offset + 8 ≤ view.length) :
    ([4, 5, 6, 7].mapM fun index => getUint8 view (offset + index)) =
      .ok (typeAt view offset) := by
  have read (index : Nat) (less : index < 8) :
      getUint8 view (offset + index) = .ok (byteAt view (offset + index)) :=
    getUint8_eq (by omega)
  simp only [List.mapM_cons, List.mapM_nil, read 4 (by decide),
    read 5 (by decide), read 6 (by decide), read 7 (by decide)]
  rfl

/-- Reading a header always returns, with the box at the offset. -/
theorem readBoxHeader_searches (view : Bytes) (offset : Nat) :
    Searches IsReadFault (readBoxHeader view offset) True
      (HasBox view offset) := by
  have ofBox {box : BoxHeader} (hasBox : HasBox view offset box) :
      Searches IsReadFault (.ok (some box)) True (HasBox view offset) :=
    (Searches.one box).congr Iff.rfl fun _ other =>
      ⟨fun same => same ▸ hasBox, fun hasOther => hasOther.unique hasBox⟩
  have ofNothing (nothing : ∀ box, ¬ HasBox view offset box) :
      Searches IsReadFault (.ok none) True (HasBox view offset) :=
    Searches.nothing.congr Iff.rfl (by simpa using nothing)
  unfold readBoxHeader
  by_cases short : view.length < offset + 8
  · rw [if_pos short]
    exact ofNothing fun box hasBox => absurd hasBox.inside (by omega)
  · rw [if_neg short, getUint32_eq (by omega)]
    simp only [bind, Except.bind, readType_eq (Nat.not_lt.mp short), pure,
      Except.pure]
    by_cases isLarge : wordAt view offset = 1
    · rw [if_pos isLarge]
      by_cases cut : view.length < offset + 16
      · rw [if_pos cut]
        refine ofNothing fun box hasBox => ?_
        cases hasBox <;> omega
      · rw [if_neg cut, getUint32_eq (by omega), getUint32_eq (by omega)]
        exact ofBox (.large (Nat.not_lt.mp cut) isLarge)
    · rw [if_neg isLarge]
      by_cases isToEnd : wordAt view offset = 0
      · rw [if_pos isToEnd]
        exact ofBox (.toEnd (Nat.not_lt.mp short) isToEnd)
      · rw [if_neg isToEnd]
        exact ofBox (.small (Nat.not_lt.mp short) (by omega))

end Bytes

/-- The boxes of a buffer. -/
def boxLayout (view : Bytes) : Layout BoxHeader where
  IsAt := HasBox view
  start := BoxHeader.start
  next := BoxHeader.endOffset
  start_eq := HasBox.start_eq
  unique := HasBox.unique

/-! ### Searches for boxes -/

section FindBox

variable {view : Bytes} {start limit : Nat} {type : List Nat}

/-- No box of another type that the search comes to ends where it starts. -/
def SearchGoesOn (view : Bytes) (start limit : Nat) (type : List Nat) : Prop :=
  (boxLayout view).GoesOn limit (fun box => box.type ≠ type) start

/-- The first box of the type. -/
def IsFirstBox (view : Bytes) (start limit : Nat) (type : List Nat)
    (box : BoxHeader) : Prop :=
  (boxLayout view).Meets limit (fun box => box.type ≠ type) start box ∧
    box.type = type

theorem searchGoesOn_of_le (outside : limit ≤ start) :
    SearchGoesOn view start limit type :=
  Layout.goesOn_of_le outside

theorem not_isFirstBox_of_le (outside : limit ≤ start) (box : BoxHeader) :
    ¬ IsFirstBox view start limit type box :=
  fun first => Layout.not_meets_of_le outside first.1

theorem not_isFirstBox_of_nothing (nothing : ∀ box, ¬ HasBox view start box)
    (box : BoxHeader) : ¬ IsFirstBox view start limit type box :=
  fun first => Layout.not_meets_of_nothing nothing first.1

theorem searchGoesOn_iff (inside : start < limit) {box : BoxHeader}
    (hasBox : HasBox view start box) :
    SearchGoesOn view start limit type ↔
      (box.type ≠ type → start < box.endOffset ∧
        SearchGoesOn view box.endOffset limit type) :=
  Layout.goesOn_iff inside hasBox

theorem isFirstBox_iff (inside : start < limit) {box found : BoxHeader}
    (hasBox : HasBox view start box) :
    IsFirstBox view start limit type found ↔
      found = box ∧ box.type = type ∨
        box.type ≠ type ∧ IsFirstBox view box.endOffset limit type found := by
  rw [IsFirstBox, Layout.meets_iff inside hasBox, or_and_right, and_assoc]
  constructor
  · rintro (⟨rfl, isType⟩ | later)
    · exact .inl ⟨rfl, isType⟩
    · exact .inr later
  · rintro (⟨rfl, isType⟩ | later)
    · exact .inl ⟨rfl, isType⟩
    · exact .inr later

/-- A search that comes to a box that ends where it starts never returns. -/
theorem findBoxFrom_of_not_goesOn
    (stuck : ¬ SearchGoesOn view start limit type) (rounds : Nat) :
    findBoxFrom view limit type rounds start = .error .diverges := by
  induction rounds generalizing start with
  | zero => rfl
  | succ rounds ih =>
      by_cases inside : start < limit
      · rw [findBoxFrom, if_pos inside]
        rcases (readBoxHeader_searches view start).none_or_one trivial with
          ⟨-, nothing⟩ | ⟨box, read, only⟩
        · exact absurd (Layout.goesOn_of_nothing nothing) stuck
        · have hasBox := (only box).mpr rfl
          have otherType : box.type ≠ type := by
            intro isType
            apply stuck
            rw [searchGoesOn_iff inside hasBox]
            exact fun notType => absurd isType notType
          rw [read]
          simp only [bind, Except.bind]
          rw [if_neg otherType]
          rcases hasBox.le_endOffset.eq_or_lt with same | further
          · -- the box is read again
            rw [← same]
            exact ih stuck
          · apply ih
            intro goesOn
            apply stuck
            rw [searchGoesOn_iff inside hasBox]
            exact fun _ => ⟨further, goesOn⟩
      · exact absurd (searchGoesOn_of_le (Nat.not_lt.mp inside)) stuck

theorem findBoxFrom_searches {rounds : Nat} (some : 0 < rounds)
    (enough : view.length < rounds + start) :
    Searches IsReadFault (findBoxFrom view limit type rounds start)
      (SearchGoesOn view start limit type)
      (IsFirstBox view start limit type) := by
  refine ⟨fun goesOn => ?_, fun stuck => ⟨.diverges, nofun,
    findBoxFrom_of_not_goesOn stuck rounds⟩⟩
  induction rounds generalizing start with
  | zero => exact absurd some (Nat.lt_irrefl 0)
  | succ rounds ih =>
      rw [findBoxFrom]
      by_cases inside : start < limit
      · rw [if_pos inside]
        rcases (readBoxHeader_searches view start).none_or_one trivial with
          ⟨read, nothing⟩ | ⟨box, read, only⟩
        · rw [read]
          exact ⟨none, rfl, by simp [not_isFirstBox_of_nothing nothing]⟩
        · have hasBox := (only box).mpr rfl
          have here := hasBox.inside
          rw [searchGoesOn_iff inside hasBox] at goesOn
          rw [read]
          simp only [bind, Except.bind, isFirstBox_iff inside hasBox]
          by_cases isType : box.type = type
          · rw [if_pos isType]
            refine ⟨_, rfl, fun found => ?_⟩
            simp [isType, eq_comm]
          · rw [if_neg isType]
            obtain ⟨further, later⟩ := goesOn isType
            obtain ⟨result, found, isFound⟩ :=
              ih (by omega) (by omega) later
            refine ⟨result, found, fun other => ?_⟩
            simp [isFound, isType]
      · rw [if_neg inside]
        exact ⟨none, rfl, by
          simp [not_isFirstBox_of_le (Nat.not_lt.mp inside)]⟩

theorem findBox_searches (view : Bytes) (start limit : Nat)
    (type : List Nat) :
    Searches IsReadFault (findBox view start limit type)
      (SearchGoesOn view start limit type)
      (IsFirstBox view start limit type) :=
  findBoxFrom_searches (Nat.succ_pos _) (by omega)

end FindBox

/-! ### Searches along paths -/

/-- Every search along the path goes on. -/
def PathGoesOn (view : Bytes) : Nat → Nat → List (List Nat) → Prop
  | _, _, [] => True
  | start, limit, type :: path =>
      SearchGoesOn view start limit type ∧
        ∀ box, IsFirstBox view start limit type box →
          PathGoesOn view box.bodyStart box.endOffset path

/-- The box at the end of the path, each box on it the first of its type. -/
def IsPathEnd (view : Bytes) :
    Nat → Nat → Option BoxHeader → List (List Nat) → BoxHeader → Prop
  | _, _, found, [], box => found = some box
  | start, limit, _, type :: path, box =>
      ∃ first, IsFirstBox view start limit type first ∧
        IsPathEnd view first.bodyStart first.endOffset (some first) path box

theorem findDescendantFrom_searches (view : Bytes) (start limit : Nat)
    (found : Option BoxHeader) (path : List (List Nat)) :
    Searches IsReadFault (findDescendantFrom view start limit found path)
      (PathGoesOn view start limit path)
      (IsPathEnd view start limit found path) := by
  induction path generalizing start limit found with
  | nil => exact Searches.ofResult found
  | cons type path ih =>
      rw [findDescendantFrom]
      exact (findBox_searches view start limit type).andThen (by rfl)
        fun first _ => ih first.bodyStart first.endOffset (some first)

theorem findDescendant_searches (view : Bytes) (start limit : Nat)
    (path : List (List Nat)) :
    Searches IsReadFault (findDescendant view start limit path)
      (PathGoesOn view start limit path)
      (IsPathEnd view start limit none path) :=
  findDescendantFrom_searches view start limit none path

/-! ### The decoder configuration -/

/-- The array cut out of a box is inside the buffer. -/
def BodyInside (view : Bytes) (box : BoxHeader) : Prop :=
  box.bodyStart ≤ box.endOffset ∧ box.endOffset ≤ view.length

def bodyOf (view : Bytes) (box : BoxHeader) : Bytes :=
  (view.drop box.bodyStart).take (box.endOffset - box.bodyStart)

def stsdPath : List (List Nat) :=
  [boxType 't' 'r' 'a' 'k', boxType 'm' 'd' 'i' 'a', boxType 'm' 'i' 'n' 'f',
    boxType 's' 't' 'b' 'l', boxType 's' 't' 's' 'd']

/-- The searches for a sample entry go on. -/
def EntriesGoOn (view : Bytes) (stsd : BoxHeader) : Prop :=
  SearchGoesOn view (stsd.bodyStart + 8) stsd.endOffset
      (boxType 'a' 'v' 'c' '1') ∧
    ((∀ box, ¬ IsFirstBox view (stsd.bodyStart + 8) stsd.endOffset
        (boxType 'a' 'v' 'c' '1') box) →
      SearchGoesOn view (stsd.bodyStart + 8) stsd.endOffset
        (boxType 'a' 'v' 'c' '3'))

/-- The first `avc1` entry, or the first `avc3` entry if there is none. -/
def IsSampleEntry (view : Bytes) (stsd entry : BoxHeader) : Prop :=
  IsFirstBox view (stsd.bodyStart + 8) stsd.endOffset
      (boxType 'a' 'v' 'c' '1') entry ∨
    (∀ box, ¬ IsFirstBox view (stsd.bodyStart + 8) stsd.endOffset
        (boxType 'a' 'v' 'c' '1') box) ∧
      IsFirstBox view (stsd.bodyStart + 8) stsd.endOffset
        (boxType 'a' 'v' 'c' '3') entry

/-- The searches for the decoder configuration go on, and its array is inside
the buffer. -/
def AvcCReturns (view : Bytes) (moov : BoxHeader) : Prop :=
  PathGoesOn view moov.bodyStart moov.endOffset stsdPath ∧
    ∀ stsd, IsPathEnd view moov.bodyStart moov.endOffset none stsdPath stsd →
      EntriesGoOn view stsd ∧
        ∀ entry, IsSampleEntry view stsd entry →
          SearchGoesOn view (entry.bodyStart + 78) entry.endOffset
              (boxType 'a' 'v' 'c' 'C') ∧
            ∀ record, IsFirstBox view (entry.bodyStart + 78) entry.endOffset
                (boxType 'a' 'v' 'c' 'C') record → BodyInside view record

/-- The decoder configuration. -/
def IsAvcC (view : Bytes) (moov : BoxHeader) (avcC : Bytes) : Prop :=
  ∃ stsd, IsPathEnd view moov.bodyStart moov.endOffset none stsdPath stsd ∧
    ∃ entry, IsSampleEntry view stsd entry ∧
      ∃ record, IsFirstBox view (entry.bodyStart + 78) entry.endOffset
          (boxType 'a' 'v' 'c' 'C') record ∧ avcC = bodyOf view record

theorem uint8Array_searches (view : Bytes) (box : BoxHeader) :
    Searches IsReadFault
      (do return some (← uint8Array view box.bodyStart box.endOffset))
      (BodyInside view box) fun body => body = bodyOf view box := by
  by_cases inside : BodyInside view box
  · have cut : uint8Array view box.bodyStart box.endOffset =
        .ok (bodyOf view box) := if_pos inside
    rw [cut]
    exact (Searches.one _).congr (by simp [inside]) fun _ _ => Iff.rfl
  · have thrown : uint8Array view box.bodyStart box.endOffset =
        .error .rangeError := if_neg inside
    rw [thrown]
    exact (Searches.throws nofun).congr (by simp [inside]) (by simp)

theorem extractAvcC_searches (view : Bytes) (moov : BoxHeader) :
    Searches IsReadFault (extractAvcC view moov) (AvcCReturns view moov)
      (IsAvcC view moov) := by
  unfold extractAvcC
  refine (findDescendant_searches view moov.bodyStart moov.endOffset
    stsdPath).andThen (by rfl) fun stsd _ => ?_
  dsimp only
  by_cases empty : stsd.endOffset ≤ stsd.bodyStart + 8
  · rw [if_pos empty]
    refine Searches.nothing.congr ?_ fun _ avcC => ?_
    · simp [EntriesGoOn, IsSampleEntry, searchGoesOn_of_le empty,
        not_isFirstBox_of_le empty]
    · simp [IsSampleEntry, not_isFirstBox_of_le empty]
  · rw [if_neg empty]
    refine Searches.orElse
      (findBox_searches view (stsd.bodyStart + 8) stsd.endOffset
        (boxType 'a' 'v' 'c' '1'))
      (findBox_searches view (stsd.bodyStart + 8) stsd.endOffset
        (boxType 'a' 'v' 'c' '3'))
      (by rfl) (fun _ => by rfl) (by rfl) fun entry _ => ?_
    exact (findBox_searches view (entry.bodyStart + 78) entry.endOffset
      (boxType 'a' 'v' 'c' 'C')).andThen (by rfl) fun record _ =>
        uint8Array_searches view record

/-! ### The size of the track -/

/-- Where the width is read. -/
def widthStart (view : Bytes) (tkhd : BoxHeader) : Nat :=
  tkhd.bodyStart + (if byteAt view tkhd.bodyStart = 1 then 32 else 20) +
    4 + 8 + 36 + 2 + 2 + 4

/-- The version is inside the buffer, and the size if the box has it. -/
def SizeInside (view : Bytes) (tkhd : BoxHeader) : Prop :=
  tkhd.bodyStart < view.length ∧
    (widthStart view tkhd + 8 ≤ tkhd.endOffset →
      widthStart view tkhd + 8 ≤ view.length)

def tkhdPath : List (List Nat) :=
  [boxType 't' 'r' 'a' 'k', boxType 't' 'k' 'h' 'd']

/-- The searches for the track header go on, and it is inside the buffer. -/
def TrackSizeReturns (view : Bytes) (moov : BoxHeader) : Prop :=
  PathGoesOn view moov.bodyStart moov.endOffset tkhdPath ∧
    ∀ tkhd, IsPathEnd view moov.bodyStart moov.endOffset none tkhdPath tkhd →
      SizeInside view tkhd

theorem trackHeader_searches (view : Bytes) (tkhd : BoxHeader) :
    Searches IsReadFault
      (do
        let version ← getUint8 view tkhd.bodyStart
        let base := tkhd.bodyStart + (if version = 1 then 32 else 20) +
          4 + 8 + 36 + 2 + 2 + 4
        if base + 8 ≤ tkhd.endOffset then
          let width ← getUint32 view base
          let height ← getUint32 view (base + 4)
          return some (width >>> 16, height >>> 16)
        else
          return none)
      (SizeInside view tkhd) fun size =>
        widthStart view tkhd + 8 ≤ tkhd.endOffset ∧
          size = (wordAt view (widthStart view tkhd) >>> 16,
            wordAt view (widthStart view tkhd + 4) >>> 16) := by
  by_cases hasVersion : tkhd.bodyStart < view.length
  · rw [getUint8_eq hasVersion]
    change Searches _
      (if widthStart view tkhd + 8 ≤ tkhd.endOffset then do
        let width ← getUint32 view (widthStart view tkhd)
        let height ← getUint32 view (widthStart view tkhd + 4)
        return some (width >>> 16, height >>> 16)
      else
        return none) _ _
    by_cases hasSize : widthStart view tkhd + 8 ≤ tkhd.endOffset
    · rw [if_pos hasSize]
      by_cases inside : widthStart view tkhd + 8 ≤ view.length
      · rw [getUint32_eq (by omega), getUint32_eq (by omega)]
        exact (Searches.one _).congr (by simp [SizeInside, hasVersion, inside])
          (by simp [hasSize])
      · have isOutside : ¬ SizeInside view tkhd :=
          fun isInside => inside (isInside.2 hasSize)
        by_cases hasWidth : widthStart view tkhd + 4 ≤ view.length
        · rw [getUint32_eq hasWidth, getUint32_of_lt (by omega)]
          exact (Searches.throws nofun).congr (by simp [isOutside]) (by simp)
        · rw [getUint32_of_lt (Nat.not_le.mp hasWidth)]
          exact (Searches.throws nofun).congr (by simp [isOutside]) (by simp)
    · rw [if_neg hasSize]
      exact Searches.nothing.congr (by simp [SizeInside, hasVersion, hasSize])
        (by simp [hasSize])
  · rw [getUint8_of_le (Nat.not_lt.mp hasVersion)]
    exact (Searches.throws nofun).congr (by simp [SizeInside, hasVersion])
      (by simp)

theorem trackSize_searches (view : Bytes) (moov : BoxHeader) :
    Searches IsReadFault (trackSize view moov) (TrackSizeReturns view moov)
      fun size => ∃ tkhd,
        IsPathEnd view moov.bodyStart moov.endOffset none tkhdPath tkhd ∧
          widthStart view tkhd + 8 ≤ tkhd.endOffset ∧
            size = (wordAt view (widthStart view tkhd) >>> 16,
              wordAt view (widthStart view tkhd + 4) >>> 16) := by
  unfold trackSize
  exact (findDescendant_searches view moov.bodyStart moov.endOffset
    tkhdPath).andThen (by rfl) fun tkhd _ => trackHeader_searches view tkhd

/-! ### Feeding -/

/-- Reading the init segment returns; the size of the track is read only if
there is a decoder configuration. -/
def MoovReturns (view : Bytes) (moov : BoxHeader) : Prop :=
  AvcCReturns view moov ∧
    ((∃ avcC, IsAvcC view moov avcC) → TrackSizeReturns view moov)

/-- What `feed` does with the box returns. -/
def BoxReturns (view : Bytes) (box : BoxHeader) : Prop :=
  (box.type = boxType 'm' 'o' 'o' 'v' → MoovReturns view box) ∧
    (box.type = boxType 'm' 'd' 'a' 't' → BodyInside view box)

/-- Every box from the offset on can be fed and ends behind its start. -/
def BoxesReturn (view : Bytes) (offset : Nat) : Prop :=
  ∀ box, (boxLayout view).Meets view.length (fun _ => True) offset box →
    BoxReturns view box ∧ box.start < box.endOffset

theorem boxesReturn_of_le {view : Bytes} {offset : Nat}
    (outside : view.length ≤ offset) : BoxesReturn view offset :=
  fun _ meets => absurd meets (Layout.not_meets_of_le outside)

theorem boxesReturn_of_nothing {view : Bytes} {offset : Nat}
    (nothing : ∀ box, ¬ HasBox view offset box) : BoxesReturn view offset :=
  fun _ meets => absurd meets (Layout.not_meets_of_nothing nothing)

theorem boxesReturn_iff {view : Bytes} {offset : Nat} {box : BoxHeader}
    (inside : offset < view.length) (hasBox : HasBox view offset box) :
    BoxesReturn view offset ↔
      (BoxReturns view box ∧ offset < box.endOffset) ∧
        BoxesReturn view box.endOffset := by
  rw [BoxesReturn, Layout.forall_meets_iff inside hasBox, hasBox.start_eq]
  exact and_congr_right fun _ => forall_const True

namespace WebCodecsPipe

variable {view : Bytes} {answer : PlatformAnswer}

/-- An init segment that can be read fails only in the platform. -/
theorem feedInitSegment_of_returns {moov : BoxHeader}
    (returns : MoovReturns view moov) (pipe : WebCodecsPipe) {fault : Fault}
    (failed : (pipe.feedInitSegment view moov answer).2 = some fault) :
    answer.configures = false ∧ fault = .typeError := by
  rw [feedInitSegment] at failed
  rcases (extractAvcC_searches view moov).none_or_one returns.1 with
    ⟨extracted, -⟩ | ⟨avcC, extracted, only⟩
  · rw [extracted] at failed
    cases failed
  · obtain ⟨codedSize, sized⟩ := (trackSize_searches view moov).returns_iff.mpr
      (returns.2 ⟨avcC, (only avcC).mpr rfl⟩)
    rw [extracted, sized] at failed
    cases configures : answer.configures with
    | true => simp [ensureDecoder, configures] at failed
    | false => simpa [ensureDecoder, configures, eq_comm] using failed

theorem feedInitSegment_of_not_returns {moov : BoxHeader}
    (fails : ¬ MoovReturns view moov) (pipe : WebCodecsPipe)
    (answer : PlatformAnswer) :
    ∃ fault, IsReadFault fault ∧
      (pipe.feedInitSegment view moov answer).2 = some fault := by
  rw [feedInitSegment]
  by_cases returns : AvcCReturns view moov
  · rcases (extractAvcC_searches view moov).none_or_one returns with
      ⟨extracted, noAvcC⟩ | ⟨avcC, extracted, only⟩
    · refine absurd ⟨returns, ?_⟩ fails
      rintro ⟨avcC, isAvcC⟩
      exact absurd isAvcC (noAvcC avcC)
    · have unsized : ¬ TrackSizeReturns view moov := fun sized =>
        fails ⟨returns, fun _ => sized⟩
      obtain ⟨fault, isRead, failed⟩ :=
        (trackSize_searches view moov).fails unsized
      rw [extracted, failed]
      exact ⟨fault, isRead, rfl⟩
  · obtain ⟨fault, isRead, failed⟩ :=
      (extractAvcC_searches view moov).fails returns
    rw [failed]
    exact ⟨fault, isRead, rfl⟩

/-- The body of the loop of `feed`. -/
def feedBox (pipe : WebCodecsPipe) (view : Bytes) (box : BoxHeader)
    (pendingMdatData : Option Bytes) (answer : PlatformAnswer) :
    WebCodecsPipe × Except Fault (Option Bytes) :=
  if box.type = boxType 'm' 'o' 'o' 'v' then
    match pipe.feedInitSegment view box answer with
    | (pipe, some fault) => (pipe, .error fault)
    | (pipe, none) => (pipe, .ok pendingMdatData)
  else if box.type = boxType 'm' 'd' 'a' 't' then
    match uint8Array view box.bodyStart box.endOffset with
    | .error fault => (pipe, .error fault)
    | .ok data => (pipe, .ok (some data))
  else
    (pipe, .ok pendingMdatData)

theorem feedBoxes_succ {rounds offset : Nat} {box : BoxHeader}
    (inside : offset < view.length)
    (read : readBoxHeader view offset = .ok (some box))
    (pendingMdatData : Option Bytes) (pipe : WebCodecsPipe) :
    feedBoxes view answer (rounds + 1) offset pendingMdatData pipe =
      match pipe.feedBox view box pendingMdatData answer with
      | (pipe, .error fault) => (pipe, .error fault)
      | (pipe, .ok pendingMdatData) =>
          feedBoxes view answer rounds box.endOffset pendingMdatData pipe := by
  rw [feedBoxes, if_pos inside, read, feedBox]
  dsimp only
  by_cases isMoov : box.type = boxType 'm' 'o' 'o' 'v'
  · rw [if_pos isMoov, if_pos isMoov]
    rcases pipe.feedInitSegment view box answer with ⟨fed, _ | fault⟩ <;> rfl
  · rw [if_neg isMoov, if_neg isMoov]
    by_cases isMdat : box.type = boxType 'm' 'd' 'a' 't'
    · rw [if_pos isMdat, if_pos isMdat]
      cases uint8Array view box.bodyStart box.endOffset <;> rfl
    · rw [if_neg isMdat, if_neg isMdat]

theorem feedBox_of_returns {box : BoxHeader} (returns : BoxReturns view box)
    (pendingMdatData : Option Bytes) (pipe : WebCodecsPipe) {fault : Fault}
    (failed : (pipe.feedBox view box pendingMdatData answer).2 =
      .error fault) : answer.configures = false ∧ fault = .typeError := by
  rw [feedBox] at failed
  by_cases isMoov : box.type = boxType 'm' 'o' 'o' 'v'
  · rw [if_pos isMoov] at failed
    rcases fed : pipe.feedInitSegment view box answer with ⟨next, _ | other⟩
    · rw [fed] at failed
      cases failed
    · rw [fed] at failed
      cases failed
      exact feedInitSegment_of_returns (returns.1 isMoov) pipe (by rw [fed])
  · rw [if_neg isMoov] at failed
    by_cases isMdat : box.type = boxType 'm' 'd' 'a' 't'
    · have cut : uint8Array view box.bodyStart box.endOffset =
          .ok (bodyOf view box) := if_pos (returns.2 isMdat)
      rw [if_pos isMdat, cut] at failed
      cases failed
    · rw [if_neg isMdat] at failed
      cases failed

theorem feedBox_of_not_returns {box : BoxHeader} (fails : ¬ BoxReturns view box)
    (pendingMdatData : Option Bytes) (pipe : WebCodecsPipe)
    (answer : PlatformAnswer) :
    ∃ fault, IsReadFault fault ∧
      (pipe.feedBox view box pendingMdatData answer).2 = .error fault := by
  rw [feedBox]
  by_cases isMoov : box.type = boxType 'm' 'o' 'o' 'v'
  · have notMdat : box.type ≠ boxType 'm' 'd' 'a' 't' := by
      rw [isMoov]
      decide
    have notMoov : ¬ MoovReturns view box := fun returns =>
      fails ⟨fun _ => returns, fun isMdat => absurd isMdat notMdat⟩
    obtain ⟨fault, isRead, failed⟩ :=
      feedInitSegment_of_not_returns notMoov pipe answer
    rw [if_pos isMoov]
    rcases fed : pipe.feedInitSegment view box answer with ⟨next, other⟩
    rw [fed] at failed
    cases failed
    exact ⟨fault, isRead, rfl⟩
  · rw [if_neg isMoov]
    by_cases isMdat : box.type = boxType 'm' 'd' 'a' 't'
    · have outside : ¬ BodyInside view box := fun inside =>
        fails ⟨fun isMoov' => absurd isMoov' isMoov, fun _ => inside⟩
      have thrown : uint8Array view box.bodyStart box.endOffset =
          .error .rangeError := if_neg outside
      rw [if_pos isMdat, thrown]
      exact ⟨.rangeError, nofun, rfl⟩
    · exact absurd ⟨fun isMoov' => absurd isMoov' isMoov,
        fun isMdat' => absurd isMdat' isMdat⟩ fails

/-- The loop of `feed` fails only in the platform if every box it comes to can
be fed. -/
theorem feedBoxes_of_return {rounds offset : Nat} (some : 0 < rounds)
    (enough : view.length < rounds + offset)
    (boxesReturn : BoxesReturn view offset)
    (pendingMdatData : Option Bytes) (pipe : WebCodecsPipe) {fault : Fault}
    (failed : (feedBoxes view answer rounds offset pendingMdatData pipe).2 =
      .error fault) : answer.configures = false ∧ fault = .typeError := by
  induction rounds generalizing offset pendingMdatData pipe with
  | zero => exact absurd some (Nat.lt_irrefl 0)
  | succ rounds ih =>
      by_cases inside : offset < view.length
      · rcases (readBoxHeader_searches view offset).none_or_one trivial with
          ⟨read, -⟩ | ⟨box, read, only⟩
        · rw [feedBoxes, if_pos inside, read] at failed
          cases failed
        · have hasBox := (only box).mpr rfl
          have here := hasBox.inside
          rw [boxesReturn_iff inside hasBox] at boxesReturn
          obtain ⟨⟨returns, further⟩, later⟩ := boxesReturn
          rw [feedBoxes_succ inside read] at failed
          rcases fed : pipe.feedBox view box pendingMdatData answer with
            ⟨next, other | pending⟩
          · rw [fed] at failed
            cases failed
            exact feedBox_of_returns returns pendingMdatData pipe (by rw [fed])
          · rw [fed] at failed
            exact ih (by omega) (by omega) later pending next failed
      · rw [feedBoxes, if_neg inside] at failed
        cases failed

/-- If the platform accepts every configuration, the loop fails at the first
box that cannot be fed, or goes on forever at a box that ends where it
starts, however many rounds it is given. -/
theorem feedBoxes_of_not_return {offset : Nat}
    (configures : answer.configures = true)
    (stuck : ¬ BoxesReturn view offset) (rounds : Nat)
    (pendingMdatData : Option Bytes) (pipe : WebCodecsPipe) :
    ∃ fault, IsReadFault fault ∧
      (feedBoxes view answer rounds offset pendingMdatData pipe).2 =
        .error fault := by
  induction rounds generalizing offset pendingMdatData pipe with
  | zero => exact ⟨.diverges, nofun, rfl⟩
  | succ rounds ih =>
      by_cases inside : offset < view.length
      · rcases (readBoxHeader_searches view offset).none_or_one trivial with
          ⟨-, nothing⟩ | ⟨box, read, only⟩
        · exact absurd (boxesReturn_of_nothing nothing) stuck
        · have hasBox := (only box).mpr rfl
          rw [feedBoxes_succ inside read]
          by_cases returns : BoxReturns view box
          · have stuckLater : ¬ BoxesReturn view box.endOffset := by
              intro later
              rcases hasBox.le_endOffset.eq_or_lt with same | further
              · rw [← same] at later
                exact stuck later
              · exact stuck ((boxesReturn_iff inside hasBox).mpr
                  ⟨⟨returns, further⟩, later⟩)
            rcases fed : pipe.feedBox view box pendingMdatData answer with
              ⟨next, other | pending⟩
            · have failed : (pipe.feedBox view box pendingMdatData answer).2 =
                  .error other := by rw [fed]
              have rejects := feedBox_of_returns returns _ pipe failed
              rw [configures] at rejects
              exact absurd rejects.1 (by decide)
            · exact ih stuckLater pending next
          · obtain ⟨fault, isRead, failed⟩ :=
              feedBox_of_not_returns returns pendingMdatData pipe answer
            rcases fed : pipe.feedBox view box pendingMdatData answer with
              ⟨next, other⟩
            rw [fed] at failed
            cases failed
            exact ⟨fault, isRead, rfl⟩
      · exact absurd (boxesReturn_of_le (Nat.not_lt.mp inside)) stuck

theorem feed_fault_iff (pipe : WebCodecsPipe) (fault : Fault) :
    (pipe.feed view answer).2 = some fault ↔
      (feedBoxes view answer (view.length + 1) 0 none pipe).2 =
        .error fault := by
  rw [feed]
  rcases feedBoxes view answer (view.length + 1) 0 none pipe with
    ⟨fed, other | _ | data⟩ <;> simp

/-- Whatever the platform answers, `feed` returns or throws what the platform
throws. -/
theorem feed_returns_iff (view : Bytes) (pipe : WebCodecsPipe) :
    (∀ answer fault, (pipe.feed view answer).2 = some fault →
      ¬ IsReadFault fault) ↔ BoxesReturn view 0 := by
  constructor
  · intro returns
    by_contra stuck
    have accepts : (PlatformAnswer.mk true true).configures = true := rfl
    obtain ⟨fault, isRead, failed⟩ :=
      feedBoxes_of_not_return accepts stuck (view.length + 1) none pipe
    exact returns _ fault ((feed_fault_iff pipe fault).mpr failed) isRead
  · intro boxesReturn answer fault failed isRead
    rw [feed_fault_iff] at failed
    exact isRead (feedBoxes_of_return (Nat.succ_pos _) (Nat.lt_succ_self _)
      boxesReturn none pipe failed).2

end WebCodecsPipe

/-- When the functions that read boxes return: reading a header always does,
the searches do if they go on, and what is cut out of a box must be inside the
buffer. -/
theorem boxReading_returns_iff (view : Bytes) :
    (∀ offset, ∃ found, readBoxHeader view offset = .ok found) ∧
      (∀ start limit type,
        (∃ found, findBox view start limit type = .ok found) ↔
          SearchGoesOn view start limit type) ∧
      (∀ start limit path,
        (∃ found, findDescendant view start limit path = .ok found) ↔
          PathGoesOn view start limit path) ∧
      (∀ moov, (∃ avcC, extractAvcC view moov = .ok avcC) ↔
        AvcCReturns view moov) ∧
      ∀ pipe : WebCodecsPipe,
        (∀ answer fault, (pipe.feed view answer).2 = some fault →
          ¬ IsReadFault fault) ↔ BoxesReturn view 0 := by
  refine ⟨fun offset => ?_, fun start limit type => ?_,
    fun start limit path => ?_, fun moov => ?_,
    WebCodecsPipe.feed_returns_iff view⟩
  · exact (readBoxHeader_searches view offset).returns_iff.mpr trivial
  · exact (findBox_searches view start limit type).returns_iff
  · exact (findDescendant_searches view start limit path).returns_iff
  · exact (extractAvcC_searches view moov).returns_iff

/-- A `free` box with a size of 64 bits that are all zero. -/
def endlessBox : Bytes :=
  [0, 0, 0, 1, 0x66, 0x72, 0x65, 0x65, 0, 0, 0, 0, 0, 0, 0, 0]

/-- An `mdat` box that is cut off. -/
def cutMdat : Bytes :=
  (encodeBox (boxType 'm' 'd' 'a' 't') [1, 2, 3, 4]).take 10

/-- However many rounds it is given, the loop of `feed` does not get past the
one, and no array can be made of the other. -/
theorem feed_endlessBox_cutMdat :
    (∀ rounds, (WebCodecsPipe.feedBoxes endlessBox ⟨true, true⟩ rounds 0 none
        (.create "avc1")).2 = .error .diverges) ∧
      ((WebCodecsPipe.create "avc1").feed endlessBox ⟨true, true⟩).2 =
        some .diverges ∧
      ((WebCodecsPipe.create "avc1").feed cutMdat ⟨true, true⟩).2 =
        some .rangeError := by
  refine ⟨fun rounds => ?_, by decide, by decide⟩
  induction rounds with
  | zero => rfl
  | succ rounds ih =>
      have read : readBoxHeader endlessBox 0 =
          .ok (some ⟨0, 16, 0, boxType 'f' 'r' 'e' 'e'⟩) := by decide
      rw [WebCodecsPipe.feedBoxes_succ (by decide) read]
      exact ih

end Rylus
